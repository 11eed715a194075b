import TwinCatalogue.Proofs.Catalogue.Scripted
import TwinCatalogue.Proofs.Catalogue.Writes
import TwinCatalogue.Proofs.Events

/-! Onboarding and offboarding leave the catalogues in agreement if the call succeeds, and if it
fails and its repair ends well. -/

namespace TwinCatalogue

/-- What a call hands over to be repaired: nothing, or one task that the catalogues are ready
for. -/
def Mendable (kind : EntityKind) (id : String) (tasks : List RepairTask) (c : Catalogues) : Prop :=
  tasks = [] ∨ ∃ task, tasks = [task] ∧ task.kind = kind ∧ task.id = some id ∧ task.Ready id c

namespace CatalogueWorld

variable {σ : Type} {w : CatalogueWorld σ} {P : Catalogues → Prop} {p : RetryPolicy}
  {kind : EntityKind} {operation : Operation} {request : Request} {call : StoreCall} {id : String}

def Concluded {α : Type} (kind : EntityKind) (id : String) (result : Except OnboardError α)
    (tasks : List RepairTask) (c : Catalogues) : Prop :=
  byResult (fun _ c => tasks = [] ∧ c.Agree kind id) (Mendable kind id tasks) result c

theorem mendable_centralRepair (hid : request.identifier kind = some id) {c : Catalogues}
    (hcreate : operation = .create → c.centralSide.held kind id = none) (admin : Token) :
    Mendable kind id (centralRepair kind operation request admin) c := by
  cases operation with
  | create => exact Or.inr ⟨_, rfl, rfl, hid, hcreate rfl⟩
  | update => exact Or.inr ⟨_, rfl, rfl, hid, trivial⟩
  | delete => exact Or.inr ⟨_, rfl, rfl, hid, trivial⟩
  | get => exact Or.inl rfl

/-- A central operation that would make the catalogues agree. Only a creation that fails needs to
know what the central catalogue held. -/
theorem ensures_executeOn_concluded (hw : w.Reliable) (hid : request.identifier kind = some id)
    (hcall : StoreCall.ofRequest kind operation request = some call)
    (hok : ∀ c admin, P c → (c.write (.store .centralSide call admin)).Agree kind id)
    (hcreate : operation = .create → ∀ c, P c → c.centralSide.held kind id = none) :
    w.Ensures (executeOn p kind operation request .centralSide) P (Concluded kind id) := by
  have hcentral : w.Ensures (executeOn p kind operation request .centralSide) P
      fun result tasks c => byResult (fun _ c => tasks = [] ∧ c.Agree kind id) (fun c => P c ∧
        (tasks = [] ∨ ∃ admin, tasks = centralRepair kind operation request admin)) result c :=
    ensures_executeOn_central hw hcall hok
  refine hcentral.mono fun result tasks c h => h.mono (fun _ h => h) ?_
  rintro ⟨hc, rfl | ⟨admin, rfl⟩⟩
  · exact Or.inl rfl
  · exact mendable_centralRepair hid (fun h => hcreate h c hc) admin

theorem ensures_createBoth (hw : w.Reliable) (hid : request.identifier kind = some id) :
    w.Ensures (Onboarding.createBoth p kind request) (fun c => c.Hold kind id none none)
      fun result tasks c => Concluded kind id result tasks c ∧
        ∀ doc written, result = .ok (doc, written) → written = id := by
  have hlocal : w.Ensures (executeOn p kind .create request .localSide)
      (fun c => c.Hold kind id none none) fun result tasks c => tasks = [] ∧
        byResult (fun _ c => c.Hold kind id (some request.body) none)
          (fun c => c.Hold kind id none none) result c :=
    ensures_executeOn_local rfl fun c hc => ⟨Catalogue.held_bind hid, hc.2⟩
  refine hlocal.seq fun created => ?_
  cases created with
  | error error => exact ensures_pure fun c hc => ⟨Or.inl rfl, fun _ _ h => nomatch h⟩
  | ok created =>
    have hrequest : Onboarding.centralRequest kind request created = some (request, id) := by
      rw [Onboarding.centralRequest, hid]
    dsimp only
    rw [hrequest]
    refine (ensures_log (P := fun c => c.Hold kind id (some request.body) none) _).seq fun _ => ?_
    have hcentral : w.Ensures (executeOn p kind .create request .centralSide)
        (fun c => c.Hold kind id (some request.body) none) (Concluded kind id) :=
      ensures_executeOn_concluded hw hid rfl (fun c admin hc =>
        Catalogues.agree_of_some ⟨hc.1, Catalogue.held_bind hid⟩ (Document.EqExcept.refl _ _))
        fun _ c hc => hc.2
    refine hcentral.bind fun result tasks => ?_
    cases result with
    | ok doc =>
      refine ensures_pure fun c hc => ?_
      rw [List.append_nil]
      exact ⟨hc, fun _ _ h => (Prod.mk.inj (Except.ok.inj h)).2.symm⟩
    | error error =>
      refine ensures_pure fun c hc => ?_
      rw [List.append_nil]
      exact ⟨hc, fun _ _ h => nomatch h⟩

theorem ensures_restoreAdapter (hid : request.identifier kind = some id) (d : Document) :
    w.Ensures (Onboarding.restoreAdapter kind request) (fun c => c.Hold kind id (some d) (some d))
      fun _ tasks c => Mendable kind id tasks c := by
  intro s hs
  cases kind with
  | item =>
    exact Or.inr ⟨_, rfl, rfl, hid, Catalogues.agree_of_some hs (Document.EqExcept.refl _ d)⟩
  | inst => exact Or.inl rfl
  | domain => exact Or.inl rfl

theorem ensures_deleteBoth (hw : w.Reliable) (hid : request.identifier kind = some id)
    (d : Document) (adapterRemoved : Bool) :
    w.Ensures (Onboarding.deleteBoth p kind request adapterRemoved)
      (fun c => c.Hold kind id (some d) (some d)) (Concluded kind id) := by
  have hcall : StoreCall.ofRequest kind .delete request = some (.delete kind id request.path) := by
    rw [StoreCall.ofRequest, hid]
    rfl
  have hlocal : w.Ensures (executeOn p kind .delete request .localSide)
      (fun c => c.Hold kind id (some d) (some d)) fun result tasks c => tasks = [] ∧
        byResult (fun _ c => c.Hold kind id none (some d))
          (fun c => c.Hold kind id (some d) (some d)) result c :=
    ensures_executeOn_local hcall fun c hc => ⟨Catalogue.held_unbind _ _ _, hc.2⟩
  refine hlocal.seq fun result => ?_
  cases result with
  | error error =>
    cases adapterRemoved with
    | false => exact ensures_pure fun c _ => Or.inl rfl
    | true =>
      exact (ensures_restoreAdapter hid d).bind fun _ tasks => ensures_pure_after fun c hc => hc
  | ok _ =>
    exact ensures_executeOn_concluded hw hid hcall (fun c admin hc =>
      Catalogues.agree_of_none ⟨hc.1, Catalogue.held_unbind _ _ _⟩) fun h => Operation.noConfusion h

theorem ensures_onboard (hw : w.Reliable) {body : Document} (hid : kind.identifierOf body = some id)
    (path : Option String) (token : Token) :
    w.Ensures (Onboarding.onboard p kind body path token) (fun c => c.Hold kind id none none)
      (Concluded kind id) := by
  have hid' : (Request.mk body path token).identifier kind = some id := hid
  refine (ensures_createBoth hw hid').bind fun result tasks => ?_
  rcases result with error | ⟨doc, written⟩
  · exact ensures_pure_after fun c hc => hc.1
  · exact ensures_pure_after fun c hc => hc.1

theorem ensures_onboardItem (hw : w.Reliable) {body : Document}
    (hid : EntityKind.item.identifierOf body = some id) (token : Token) :
    w.Ensures (Onboarding.onboardItem p body token) (fun c => c.Hold .item id none none)
      (Concluded .item id) := by
  have hid' : (Request.mk body none token).identifier .item = some id := hid
  refine (ensures_createBoth hw hid').bind fun result tasks => ?_
  rcases result with error | ⟨doc, written⟩
  · exact ensures_pure_after fun c hc => hc.1
  · rintro s ⟨⟨rfl, hagree⟩, hwritten⟩
    obtain rfl := hwritten doc written rfl
    have hadapter : w.Ensures (Adapter.create p written token) (fun c => c.Agree .item written)
        fun result tasks c => c.Agree .item written ∧ byResult (fun _ _ => tasks = [])
          (fun _ => tasks = [] ∨ tasks = [.rollback written token]) result c :=
      ensures_createAdapter written token
    refine (hadapter.bind fun registered tasks => ?_) s hagree
    cases registered with
    | ok answer => exact ensures_pure_after fun c hc => ⟨hc.2, hc.1⟩
    | error error =>
      refine ensures_pure_after fun c hc => ?_
      rcases hc.2 with rfl | rfl
      · exact Or.inl rfl
      · exact Or.inr ⟨_, rfl, rfl, rfl, rfl⟩

theorem ensures_offboardItem (hw : w.Reliable) (hid : id ≠ "") (d : Document) (token : Token) :
    w.Ensures (Onboarding.offboardItem p id token) (fun c => c.Hold .item id (some d) (some d))
      (Concluded .item id) := by
  have hadapter : w.Ensures (Adapter.delete p id token)
      (fun c => c.Hold .item id (some d) (some d)) fun _ tasks c =>
        tasks = [] ∧ c.Hold .item id (some d) (some d) := ensures_deleteAdapter id token
  refine hadapter.seq fun result => ?_
  cases result with
  | error error => exact ensures_pure fun c _ => Or.inl rfl
  | ok _ => exact ensures_deleteBoth hw (Request.identifier_forId hid none token) d true

theorem ensures_offboard (hw : w.Reliable) (hid : id ≠ "") (d : Document) (path : Option String)
    (token : Token) :
    w.Ensures (Onboarding.offboard p kind id path token)
      (fun c => c.Hold kind id (some d) (some d)) (Concluded kind id) := by
  unfold Onboarding.offboard
  split
  · rename_i hkind
    subst hkind
    exact ensures_offboardItem hw hid d token
  · exact ensures_deleteBoth hw (Request.identifier_forId hid path token) d false

end CatalogueWorld

def Verb.onboards? : Verb → Option (EntityKind × Document)
  | onboard kind body _ _ => some (kind, body)
  | onboardItem body _ => some (.item, body)
  | onboardInstance body _ _ => some (.inst, body)
  | onboardDomain body _ => some (.domain, body)
  | _ => none

def Verb.offboards? : Verb → Option (EntityKind × String)
  | offboard kind id _ _ => some (kind, id)
  | offboardItem id _ => some (.item, id)
  | offboardInstance id _ _ => some (.inst, id)
  | offboardDomain id _ => some (.domain, id)
  | _ => none

/-- A verb is in place where it puts an entity into catalogues that do not hold it, or takes one
out of catalogues that hold the same document for it. -/
def Verb.InPlace (v : Verb) (kind : EntityKind) (id : String) (c : Catalogues) : Prop :=
  (∃ body, v.onboards? = some (kind, body) ∧ kind.identifierOf body = some id ∧
    c.Hold kind id none none) ∨
  (v.offboards? = some (kind, id) ∧ ∃ d, c.Hold kind id (some d) (some d))

namespace CatalogueWorld

variable {σ : Type} {w : CatalogueWorld σ} {p : RetryPolicy} {kind : EntityKind} {id : String}
  {v : Verb}

theorem ensures_perform (hw : w.Reliable) :
    w.Ensures (v.perform p) (v.InPlace kind id) (Concluded kind id) := by
  rintro s (⟨body, hv, hid, hheld⟩ | ⟨hv, d, hheld⟩)
  · cases v <;> simp only [Verb.onboards?, Option.some.injEq, Prod.mk.injEq, reduceCtorEq] at hv <;>
      obtain ⟨rfl, rfl⟩ := hv
    · exact ensures_onboard hw hid _ _ s hheld
    · exact ensures_onboardItem hw hid _ s hheld
    · exact ensures_onboard hw hid _ _ s hheld
    · exact ensures_onboard hw hid _ _ s hheld
  · have hid : id ≠ "" :=
      EntityKind.identifierOf_ne_empty ((w.catalogues s).localSide.keyed kind id d hheld.1)
    cases v <;> simp only [Verb.offboards?, Option.some.injEq, Prod.mk.injEq, reduceCtorEq] at hv <;>
      obtain ⟨rfl, rfl⟩ := hv
    · exact ensures_offboard hw hid d _ _ s hheld
    · exact ensures_offboardItem hw hid d _ s hheld
    · exact ensures_offboard hw hid d _ _ s hheld
    · exact ensures_offboard hw hid d _ _ s hheld

theorem agree_of_repaired (hw : w.Reliable) {α : Type} {x : Activity σ α} {s : σ}
    (hmend : Mendable kind id (Event.tasks (x.run w.toWorld s).events)
      (w.catalogues (x.run w.toWorld s).after))
    (hrepaired : Event.counted .repaired ∈ (x.settle p w.toWorld s).repairs.events) :
    (w.catalogues (x.settle p w.toWorld s).repairs.after).Agree kind id := by
  rcases hmend with hnone | ⟨task, hone, rfl, hid, hready⟩
  · rw [Activity.settle_of_nil hnone] at hrepaired
    exact absurd hrepaired List.not_mem_nil
  · rw [Activity.settle_of_single hone] at hrepaired ⊢
    obtain ⟨hresult, hafter⟩ := RepairTask.run_repaired hrepaired
    dsimp only
    rw [hafter]
    exact ensures_apply hw p hid _ hready hresult

/-- A verb that succeeds, or whose repair is counted as repaired, leaves the catalogues in
agreement on its entity. -/
theorem settle_agree (hw : w.Reliable) (p : RetryPolicy) {s : σ}
    (hv : v.InPlace kind id (w.catalogues s)) :
    let settled := v.settle p w.toWorld s
    (∃ doc, settled.call.result = .ok doc) ∨ .counted .repaired ∈ settled.repairs.events →
      (w.catalogues settled.repairs.after).Agree kind id := by
  intro settled hend
  have hcall := ensures_perform (p := p) hw s hv
  cases hresult : ((v.perform p).run w.toWorld s).result with
  | ok doc =>
    rw [hresult] at hcall
    have hrepairs : settled.repairs = _ := Activity.settle_of_nil hcall.1
    rw [hrepairs]
    exact hcall.2
  | error error =>
    rw [hresult] at hcall
    rcases hend with ⟨doc, hok⟩ | hrepaired
    · exact absurd (hresult.symm.trans hok) (by simp)
    · exact agree_of_repaired hw hcall hrepaired

/-- A domain that the central catalogue refuses to delete is back in the local one at the end. -/
theorem settle_agree_refused_deletion :
    let doc := Document.ofMembers [("id", .string "air"), ("label", .string "Air quality")]
    let both : Catalogues := ⟨.bind .empty .domain doc, .bind .empty .domain doc⟩
    let script := Script.empty.addCalls (.delete .centralSide) [] (some (.error (.status 500 "down")))
    let settled := (Verb.offboardDomain "air" ⟨"token"⟩).settle .standard (scripted false).toWorld
      (both, script)
    .counted .repaired ∈ settled.repairs.events ∧ settled.repairs.after.1.Agree .domain "air" := by
  intro doc both script settled
  have hid : EntityKind.domain.identifierOf doc = some "air" := by decide
  have hplace : (Verb.offboardDomain "air" ⟨"token"⟩).InPlace .domain "air" both :=
    Or.inr ⟨rfl, doc, Catalogue.held_bind hid, Catalogue.held_bind hid⟩
  have hrepaired : Event.counted .repaired ∈ settled.repairs.events := by
    rw [Event.mem_counted_iff]
    decide +kernel
  exact ⟨hrepaired, settle_agree scripted_reliable .standard hplace (Or.inr hrepaired)⟩

end CatalogueWorld

end TwinCatalogue
