import TwinCatalogue.Proofs.Catalogue.World
import TwinCatalogue.Proofs.Repair.Outcome

/-! What each repair makes of the two catalogues. A repair that ends well ends in agreement,
provided that the catalogues stood as its recipe expects. -/

namespace TwinCatalogue

theorem Catalogues.write_related (c : Catalogues) (side : Side) (id relation : String)
    (filters : List String) (token : Token) :
    c.write (.store side (.related id relation filters) token) = c := by
  cases side <;> rfl

namespace CatalogueWorld

variable {σ : Type} {w : CatalogueWorld σ} {P : Catalogues → Prop}

theorem ensures_phase {p : RetryPolicy} {operation : Activity σ Reply} {Q : Catalogues → Prop}
    (hquiet : operation.Leaves Event.Quiet)
    (hop : w.Ensures operation P fun reply _ => byResult (fun _ => Q) P reply) :
    w.Ensures (RepairTask.phase p operation) P fun result tasks c =>
      tasks = [] ∧ byResult (fun _ => Q) P result c := by
  refine (ensures_execute hquiet hop).seq fun outcome => ?_
  cases outcome.toExcept with
  | ok doc => exact ensures_pure fun c hc => ⟨rfl, hc⟩
  | error error => exact ensures_pure fun c hc => ⟨rfl, hc⟩

theorem ensures_deletion {p : RetryPolicy} {side : Side} {kind : EntityKind} {id : String}
    {path : Option String} {token : Token} {Q : Catalogues → Prop}
    (hc : w.Heeds (.store side (.delete kind id path) token))
    (hok : ∀ c, P c → Q (c.write (.store side (.delete kind id path) token))) :
    w.Ensures (RepairTask.deletion p side kind id path token) P fun result tasks c =>
      tasks = [] ∧ byResult (fun _ => Q) P result c :=
  ensures_phase (Activity.quiet_call _) ((ensures_call hc hok).mono fun _ _ _ h => h.2)

theorem ensures_deleteLocal (p : RetryPolicy) (kind : EntityKind) (id : String)
    (path : Option String) (token : Token) (x : Option Document) :
    w.Ensures (RepairTask.deletion p .localSide kind id path token)
      (fun c => c.centralSide.held kind id = x) fun result _ c =>
        result = .ok () → c.Hold kind id none x := by
  have hdelete : w.Ensures (RepairTask.deletion p .localSide kind id path token)
      (fun c => c.centralSide.held kind id = x) fun result tasks c => tasks = [] ∧
        byResult (fun _ c => c.Hold kind id none x) (fun c => c.centralSide.held kind id = x)
          result c :=
    ensures_deletion (heeds_of_not_central rfl) fun c hc => ⟨Catalogue.held_unbind _ _ _, hc⟩
  refine hdelete.mono ?_
  rintro _ tasks c ⟨-, h⟩ rfl
  exact h

theorem write_copy {c : Catalogues} {kind : EntityKind} {id : String} {stored : Document}
    (h : c.centralSide.held kind id = some stored) (mode : RepairTask.CopyMode) (token : Token) :
    (c.write (.store .localSide
      (mode.call kind (stored.insertIfAbsent kind.idKey (.string id))) token)).Agree kind id := by
  have hid := Document.identifierOf_insertIfAbsent (c.centralSide.keyed kind id stored h)
  have hcopy := Document.eqExcept_insertIfAbsent stored kind.idKey (.string id)
  cases mode with
  | create => exact Catalogues.agree_of_some ⟨Catalogue.held_bind hid, h⟩ hcopy
  | update => exact Catalogues.agree_of_some ⟨Catalogue.held_bind hid, h⟩ hcopy

theorem ensures_copyOnce (task : RepairTask) (id : String) (mode : RepairTask.CopyMode)
    (admin : Token) :
    w.Ensures (task.copyOnce id mode admin) (fun _ => True) fun reply _ =>
      byResult (fun _ c => c.Agree task.kind id) (fun _ => True) reply := by
  refine (ensures_get task.kind id admin).seq fun reply => ?_
  cases reply with
  | error error => exact ensures_pure fun c _ => trivial
  | ok fetched =>
    intro s hs
    obtain ⟨-, hfound⟩ := hs
    obtain ⟨stored, hstored, rfl⟩ := hfound fetched rfl
    dsimp only
    rw [Document.restorable_found]
    let entity := stored.insertIfAbsent task.kind.idKey (.string id)
    have hwrite : w.Ensures
        (Activity.call (.store .localSide (mode.call task.kind entity) task.token))
        (fun c => c.centralSide.held task.kind id = some stored)
        fun reply tasks c => tasks = [] ∧ byResult (fun _ c => c.Agree task.kind id)
          (fun c => c.centralSide.held task.kind id = some stored) reply c :=
      ensures_call (heeds_of_not_central rfl) fun c hc => write_copy hc mode task.token
    exact (hwrite s hstored).2.mono (fun _ h => h) fun _ => trivial

/-- A copy from the central catalogue that ends well makes the catalogues agree, whatever they
held before. -/
theorem ensures_copy (p : RetryPolicy) (task : RepairTask) (id : String)
    (mode : RepairTask.CopyMode) :
    w.Ensures (RepairTask.copy p task id mode) (fun _ => True) fun result _ c =>
      result = .ok () → c.Agree task.kind id := by
  have htoken : w.Ensures task.acquireToken (fun _ => True) fun _ tasks _ => tasks = [] ∧ True := by
    unfold RepairTask.acquireToken
    cases task.adminToken with
    | none => exact ensures_mint
    | some token => exact ensures_pure fun _ _ => ⟨rfl, trivial⟩
  refine htoken.seq fun reply => ?_
  cases reply with
  | error error => exact ensures_pure fun c _ h => nomatch h
  | ok admin =>
    refine (ensures_phase (RepairTask.quiet_copyOnce task id mode admin)
      (ensures_copyOnce task id mode admin)).mono ?_
    rintro _ tasks c ⟨-, h⟩ rfl
    exact h

theorem ensures_resolve (id : String) (token : Token) :
    w.Ensures (Adapter.resolve id token) P fun _ tasks c => tasks = [] ∧ P c := by
  refine (ensures_call (Q := P) (heeds_of_not_central rfl) fun c hc => ?_).seq fun reply => ?_
  · rw [Catalogues.write_related]
    exact hc
  · cases reply with
    | error error => exact ensures_pure fun c hc => ⟨rfl, hc⟩
    | ok related =>
      dsimp only
      cases Adapter.registrationUrl related with
      | none => exact ensures_pure fun c hc => ⟨rfl, hc⟩
      | some url => exact ensures_pure fun c hc => ⟨rfl, hc⟩

theorem ensures_reregister (p : RetryPolicy) (id : String) (token : Token) :
    w.Ensures (RepairTask.reregister p id token) P fun _ _ c => P c := by
  refine (ensures_resolve (P := P) id token).seq fun found => ?_
  cases found with
  | error error => exact ensures_pure fun c hc => hc
  | ok url =>
    refine (ensures_phase (P := P) (Q := P) (Activity.quiet_call _)
      ((ensures_call (heeds_of_not_central rfl) fun c hc => hc).mono fun _ _ _ h => h.2)).mono ?_
    rintro (error | _) tasks c ⟨-, h⟩
    · exact h
    · exact h

theorem ensures_takeBack (hw : w.Reliable) (p : RetryPolicy) (id : String) (token : Token) :
    w.Ensures (RepairTask.takeBack p id token) (fun _ => True) fun result _ c =>
      result = .ok () → c.Agree .item id := by
  have hlocal : w.Ensures (RepairTask.deletion p .localSide .item id none token) (fun _ => True)
      fun result tasks c => tasks = [] ∧
        byResult (fun _ c => c.localSide.held .item id = none) (fun _ => True) result c :=
    ensures_deletion (heeds_of_not_central rfl) fun c _ => Catalogue.held_unbind _ _ _
  refine hlocal.seq fun result => ?_
  cases result with
  | error error => exact ensures_pure fun c _ h => nomatch h
  | ok _ =>
    refine (ensures_mint (P := fun c => c.localSide.held .item id = none)).seq fun reply => ?_
    cases reply with
    | error error => exact ensures_pure fun c _ h => nomatch h
    | ok admin =>
      have hcentral : w.Ensures (RepairTask.deletion p .centralSide .item id none admin)
          (fun c => c.localSide.held .item id = none) fun result tasks c => tasks = [] ∧
            byResult (fun _ c => c.Agree .item id) (fun c => c.localSide.held .item id = none)
              result c :=
        ensures_deletion (hw _) fun c hc =>
          Catalogues.agree_of_none ⟨hc, Catalogue.held_unbind _ _ _⟩
      refine hcentral.mono ?_
      rintro _ tasks c ⟨-, h⟩ rfl
      exact h

end CatalogueWorld

/-- How the catalogues have to stand for a task to bring them to agreement. -/
def RepairTask.Ready (task : RepairTask) (id : String) (c : Catalogues) : Prop :=
  match task.action with
  | .deleteLocal => c.centralSide.held task.kind id = none
  | .restoreLocalFromCentral => True
  | .recreateLocalFromCentral => True
  | .recreateAdapter => c.Agree task.kind id
  | .rollbackItem => task.kind = .item

/-- A repair that ends well leaves the catalogues in agreement. -/
theorem CatalogueWorld.ensures_apply {σ : Type} {w : CatalogueWorld σ} (hw : w.Reliable)
    (p : RetryPolicy) {task : RepairTask} {id : String} (hid : task.id = some id) :
    w.Ensures (task.apply p) (task.Ready id) fun result _ c =>
      result = .ok () → c.Agree task.kind id := by
  rw [RepairTask.apply_of_id hid]
  unfold RepairTask.perform RepairTask.Ready
  cases task.action with
  | deleteLocal =>
    refine (ensures_deleteLocal p task.kind id task.path task.token none).mono ?_
    intro result tasks c h hr
    exact Catalogues.agree_of_none (h hr)
  | restoreLocalFromCentral => exact ensures_copy p task id .update
  | recreateLocalFromCentral => exact ensures_copy p task id .create
  | recreateAdapter => exact (ensures_reregister p id task.token).mono fun _ _ _ h _ => h
  | rollbackItem =>
    intro s hkind
    rw [show task.kind = .item from hkind]
    exact ensures_takeBack hw p id task.token s trivial

end TwinCatalogue
