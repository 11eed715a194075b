import TwinCatalogue.Proofs.Item.World
import TwinCatalogue.Proofs.Onboarding.Workflow

/-! Whether an item has an adapter exactly while the catalogues hold it, once a call and its repair
have ended. A repair is one action, so that an item which comes back from the central catalogue
stays without the adapter that it had. -/

namespace TwinCatalogue

namespace Holdings

def HeldByBoth (id : String) (h : Holdings) : Prop :=
  (h.catalogues.localSide.held .item id).isSome ∧ (h.catalogues.centralSide.held .item id).isSome

/-- Both catalogues hold the item, and it has an adapter. -/
def Onboarded (id : String) (h : Holdings) : Prop := h.HeldByBoth id ∧ h.registered id = true

/-- Neither catalogue holds the item, and it has no adapter. -/
def Absent (id : String) (h : Holdings) : Prop :=
  h.catalogues.Hold .item id none none ∧ h.registered id = false

/-- What a repair that ends well leaves of an item. -/
def Mended (id : String) (action : Repair) (h : Holdings) : Prop :=
  match action with
  | .recreateLocalFromCentral => h.HeldByBoth id ∧ h.registered id = false
  | _ => h.Onboarded id ∨ h.Absent id

end Holdings

/-- How an item has to stand for a repair of it. -/
def Repair.Suits (action : Repair) (id : String) (h : Holdings) : Prop :=
  match action with
  | .deleteLocal => h.catalogues.centralSide.held .item id = none ∧ h.registered id = false
  | .restoreLocalFromCentral => False
  | .recreateLocalFromCentral =>
    (h.catalogues.centralSide.held .item id).isSome ∧ h.registered id = false
  | .recreateAdapter => h.HeldByBoth id
  | .rollbackItem => h.registered id = false

namespace Holdings

/-- What a call makes of an item: it is done, or it has failed with nothing to repair, or with one
repair for the item as it now stands. -/
def Concluded (id : String) (result : Except OnboardError Document) (tasks : List RepairTask)
    (h : Holdings) : Prop :=
  match result with
  | .ok _ => tasks = [] ∧ (h.Onboarded id ∨ h.Absent id)
  | .error _ => tasks = [] ∨
    ∃ task, tasks = [task] ∧ task.kind = .item ∧ task.id = some id ∧ task.action.Suits id h

variable {url id : String} {h : Holdings} {token : Token} {events : List Event}

theorem Mended.paired {action : Repair} (hmended : h.Mended id action)
    (hother : action ≠ .recreateLocalFromCentral) : h.Onboarded id ∨ h.Absent id := by
  cases action with
  | recreateLocalFromCentral => exact absurd rfl hother
  | _ => exact hmended

theorem absent_of_deletion {path : Option String}
    (hcourse : RepairTask.PhaseCourse
      (Asked (.store .localSide (.delete .item id path) token)) (.ok ()) events)
    (hcentral : h.catalogues.centralSide.held .item id = none) (hgone : h.registered id = false) :
    (h.after url events).Absent id := by
  obtain ⟨doc, hafter⟩ := after_phase hcourse
  rw [hafter]
  exact ⟨⟨Catalogue.held_unbind _ _ _, hcentral⟩, hgone⟩

theorem onboarded_of_reregister (hcourse : RepairTask.ReregisterCourse id token (.ok ()) events)
    (hurl : Event.Resolves url events) (hheld : h.HeldByBoth id) :
    (h.after url events).Onboarded id := by
  cases hcourse with
  | tried hresolve htried =>
    obtain rfl := hurl.found (List.subset_append_left _ _) hresolve
    obtain ⟨doc, hafter⟩ := after_phase htried
    rw [after_append, after_resolve hresolve, hafter, apply_register]
    exact ⟨hheld, Function.update_self _ _ _⟩

theorem absent_of_takeBack (hcourse : RepairTask.TakeBackCourse id token (.ok ()) events)
    (hgone : h.registered id = false) : (h.after url events).Absent id := by
  cases hcourse with
  | passed hlocal hcentral =>
    obtain ⟨deleted, hafter⟩ := after_phase hlocal
    obtain ⟨gone, hafter'⟩ := after_phase hcentral
    rw [after_append, hafter, after_cons, hafter']
    exact ⟨⟨Catalogue.held_unbind _ _ _, Catalogue.held_unbind _ _ _⟩, hgone⟩

/-- A copy from the central catalogue concerns the local one alone. -/
theorem copy_frame {task : RepairTask} {mode : RepairTask.CopyMode}
    {result : Except OnboardError Unit} (hcourse : task.CopyCourse id mode result events) :
    (h.after url events).catalogues.centralSide = h.catalogues.centralSide ∧
      (h.after url events).registered = h.registered := by
  have hsame : ∀ e ∈ events, ∀ h : Holdings,
      ((h.apply url e).catalogues.centralSide, (h.apply url e).registered) =
        (h.catalogues.centralSide, h.registered) := by
    intro e he h
    cases hcall : e.isCall with
    | false => rw [apply_of_not_isCall hcall]
    | true =>
      rcases hcourse.calls he hcall with ⟨reply, rfl⟩ | ⟨admin, reply, -, rfl⟩ |
        ⟨entity, reply, rfl⟩
      · rfl
      · cases reply <;> rfl
      · cases reply <;> cases mode <;> rfl
  exact Prod.mk.inj (after_preserves
    (f := fun h => (h.catalogues.centralSide, h.registered)) hsame)

end Holdings

namespace ItemWorld

variable {σ : Type} {w : ItemWorld σ} {p : RetryPolicy} {id : String}

theorem mended_copy {task : RepairTask} {s : σ} (hkind : task.kind = .item)
    (hcentral : ((w.holdings s).catalogues.centralSide.held .item id).isSome)
    (hgone : (w.holdings s).registered id = false)
    (hok : ((RepairTask.copy p task id .create).run w.toWorld s).result = .ok ()) :
    let final := w.holdings ((RepairTask.copy p task id .create).run w.toWorld s).after
    final.HeldByBoth id ∧ final.registered id = false := by
  intro final
  obtain ⟨hcourse, hleads⟩ := RepairTask.takes_copy p task id .create w.toWorld s
  obtain ⟨hsame, hregistered⟩ : final.catalogues.centralSide =
      (w.holdings s).catalogues.centralSide ∧ final.registered = (w.holdings s).registered := by
    change (w.holdings _).catalogues.centralSide = _ ∧ (w.holdings _).registered = _
    rw [holdings_of_leads hleads]
    exact Holdings.copy_frame hcourse
  have hagree : final.catalogues.Agree task.kind id :=
    w.catalogueWorld.ensures_copy p task id .create s trivial hok
  rw [hkind] at hagree
  have hheld : (final.catalogues.centralSide.held .item id).isSome := by rw [hsame]; exact hcentral
  refine ⟨⟨?_, hheld⟩, by rw [hregistered]; exact hgone⟩
  cases hlocal : final.catalogues.localSide.held .item id with
  | some d => rfl
  | none =>
    rw [(Catalogues.agree_none hlocal).mp hagree] at hheld
    exact nomatch hheld

/-- A repair that ends well, and that found the item as it expects it. -/
theorem mended_perform {task : RepairTask} {s : σ} (hkind : task.kind = .item)
    (hsuits : task.action.Suits id (w.holdings s))
    (hok : ((task.perform p id).run w.toWorld s).result = .ok ()) :
    (w.holdings ((task.perform p id).run w.toWorld s).after).Mended id task.action := by
  obtain ⟨hcourse, hleads⟩ := RepairTask.takes_work p task id w.toWorld s
  have hafter := holdings_of_leads hleads
  rw [hok] at hcourse
  unfold RepairTask.WorkCourse at hcourse
  cases haction : task.action with
  | deleteLocal =>
    rw [haction] at hsuits hcourse
    rw [hkind] at hcourse
    rw [hafter]
    exact Or.inr (Holdings.absent_of_deletion hcourse hsuits.1 hsuits.2)
  | restoreLocalFromCentral =>
    rw [haction] at hsuits
    exact hsuits.elim
  | recreateLocalFromCentral =>
    -- The course leaves open what was fetched. That it is what the central side holds is known of
    -- the world only.
    rw [haction] at hsuits
    unfold RepairTask.perform at hok ⊢
    rw [haction] at hok ⊢
    exact mended_copy hkind hsuits.1 hsuits.2 hok
  | recreateAdapter =>
    rw [haction] at hsuits hcourse
    rw [hafter]
    exact Or.inl (Holdings.onboarded_of_reregister hcourse (resolves_of_leads hleads) hsuits)
  | rollbackItem =>
    rw [haction] at hsuits hcourse
    rw [hafter]
    exact Or.inr (Holdings.absent_of_takeBack hcourse hsuits)

/-- A call that was repaired has handed over one task, and its item is mended. -/
theorem mended_of_repaired {x : Activity σ (Except OnboardError Document)} {s : σ}
    {error : OnboardError}
    (hconcluded : Holdings.Concluded id (.error error) (Event.tasks (x.run w.toWorld s).events)
      (w.holdings (x.run w.toWorld s).after))
    (hrepaired : Event.counted .repaired ∈ (x.settle p w.toWorld s).repairs.events) :
    ∃ task, Event.tasks (x.run w.toWorld s).events = [task] ∧
      (w.holdings (x.settle p w.toWorld s).repairs.after).Mended id task.action := by
  rcases hconcluded with hnone | ⟨task, hone, hkind, hid, hsuits⟩
  · rw [Activity.settle_of_nil hnone] at hrepaired
    exact absurd hrepaired List.not_mem_nil
  · refine ⟨task, hone, ?_⟩
    rw [Activity.settle_of_single hone] at hrepaired ⊢
    obtain ⟨hresult, hafter⟩ := RepairTask.run_repaired hrepaired
    dsimp only
    rw [hafter]
    rw [RepairTask.apply_of_id hid] at hresult ⊢
    exact mended_perform hkind hsuits hresult

end ItemWorld

namespace Holdings

variable {url id : String} {h : Holdings} {token : Token} {body : Document} {events : List Event}

theorem concluded_creation {result : Except OnboardError (Document × String)}
    (hcourse : Onboarding.CreateCourse .item ⟨body, none, token⟩ result events)
    (hbody : EntityKind.item.identifierOf body = some id) (habsent : h.Absent id) :
    match result with
    | .ok (_, written) => written = id ∧ Event.tasks events = [] ∧
      (h.after url events).HeldByBoth id ∧ (h.after url events).registered id = false
    | .error error => Concluded id (.error error) (Event.tasks events) (h.after url events) := by
  have hrequest : ∀ created, Onboarding.centralRequest .item ⟨body, none, token⟩ created =
      some (⟨body, none, token⟩, id) := by
    intro created
    rw [Onboarding.centralRequest, Request.identifier, hbody]
  cases hcourse with
  | refused hlocal => exact Or.inl hlocal.tasks
  | unnamed hlocal hcentral => exact nomatch (hrequest _).symm.trans hcentral
  | failed hlocal hcentral hwrite =>
    obtain ⟨rfl, rfl⟩ := Prod.mk.inj (Option.some.inj ((hrequest _).symm.trans hcentral))
    rw [Event.tasks_append, hlocal.tasks, after_append, after_local_ok rfl hlocal, after_cons,
      after_central_error hwrite]
    change Concluded id _ (Event.tasks _) _
    rcases hwrite.tasks with hnone | ⟨admin, -, hone⟩
    · exact Or.inl hnone
    · exact Or.inr ⟨_, hone, rfl, hbody, habsent.1.2, habsent.2⟩
  | done hlocal hcentral hwrite =>
    obtain ⟨rfl, rfl⟩ := Prod.mk.inj (Option.some.inj ((hrequest _).symm.trans hcentral))
    have hheld := Catalogue.held_bind (c := h.catalogues.localSide) hbody
    have hheld' := Catalogue.held_bind (c := h.catalogues.centralSide) hbody
    refine ⟨rfl, (Onboarding.CreateCourse.done hlocal hcentral hwrite).tasks_ok, ?_⟩
    rw [after_append, after_local_ok rfl hlocal, after_cons]
    obtain ⟨admin, hafter⟩ := after_central_ok rfl hwrite
    rw [hafter]
    exact ⟨⟨Option.isSome_of_eq_some hheld, Option.isSome_of_eq_some hheld'⟩, habsent.2⟩

theorem concluded_onboardItem {result : Except OnboardError Document}
    (hcourse : Onboarding.ItemCreateCourse body token result events)
    (hurl : Event.Resolves url events) (hbody : EntityKind.item.identifierOf body = some id)
    (habsent : h.Absent id) : Concluded id result (Event.tasks events) (h.after url events) := by
  cases hcourse with
  | unwritten hwrite => exact concluded_creation hwrite hbody habsent
  | written hwrite hadapter =>
    obtain ⟨rfl, htasks, hheld, -⟩ := concluded_creation hwrite hbody habsent
    rw [Event.tasks_append, htasks, after_append,
      after_server_ok hadapter (hurl.mono (List.subset_append_right _ _)), apply_register]
    exact ⟨hadapter.tasks_ok, Or.inl ⟨hheld, Function.update_self _ _ _⟩⟩
  | unregistered hwrite hadapter =>
    obtain ⟨rfl, htasks, -, hgone⟩ := concluded_creation hwrite hbody habsent
    rw [Event.tasks_append, htasks, after_append,
      after_server_error hadapter (by simp [Adapter.rollbackEvents, Event.isCall])]
    rcases hadapter.tasks with hnone | hone
    · exact Or.inl hnone
    · exact Or.inr ⟨_, hone, rfl, rfl, hgone⟩

/-- Deleting an item on both sides, after its adapter is gone. -/
theorem concluded_offboardItem {result : Except OnboardError Document}
    (hcourse : Onboarding.ItemDeleteCourse id token result events)
    (hurl : Event.Resolves url events) (hid : id ≠ "") (honboarded : h.Onboarded id) :
    Concluded id result (Event.tasks events) (h.after url events) := by
  have hcall : StoreCall.ofRequest .item .delete (Onboarding.itemRequest id token) =
      some (.delete .item id none) := by
    rw [StoreCall.ofRequest, Onboarding.itemRequest, Request.identifier_forId hid]
    rfl
  cases hcourse with
  | kept hadapter => exact Or.inl hadapter.tasks
  | refused hadapter hlocal =>
    refine Or.inr ⟨Onboarding.restoreTask (Onboarding.itemRequest id token), ?_, rfl,
      Request.identifier_forId hid none token, ?_⟩
    · rw [Event.tasks_append, hadapter.tasks, Event.tasks_append, hlocal.tasks]
      rfl
    · rw [after_append, after_server_ok hadapter (hurl.mono (List.subset_append_left _ _)),
        apply_deregister, after_append, after_local_error hlocal]
      exact honboarded.1
  | passed hadapter hlocal hwrite =>
    rw [Event.tasks_append, hadapter.tasks, Event.tasks_append, hlocal.tasks, List.nil_append,
      List.nil_append, after_append,
      after_server_ok hadapter (hurl.mono (List.subset_append_left _ _)), apply_deregister,
      after_append, after_local_ok hcall hlocal]
    have hgone := Function.update_self id false h.registered
    cases result with
    | ok doc =>
      obtain ⟨admin, hafter⟩ := after_central_ok hcall hwrite
      rw [hafter]
      exact ⟨hwrite.tasks_ok, Or.inr
        ⟨⟨Catalogue.held_unbind _ _ _, Catalogue.held_unbind _ _ _⟩, hgone⟩⟩
    | error error =>
      rw [after_central_error hwrite]
      rcases hwrite.tasks with hnone | ⟨admin, -, hone⟩
      · exact Or.inl hnone
      · exact Or.inr ⟨_, hone, rfl, Request.identifier_forId hid none token, honboarded.1.2, hgone⟩

end Holdings

/-- A workflow that puts an item into place which is nowhere, or takes one out which is in place. -/
def Workflow.Begins (f : Workflow) (id : String) (h : Holdings) : Prop :=
  match f with
  | .onboardItem body _ => EntityKind.item.identifierOf body = some id ∧ h.Absent id
  | .offboardItem target _ => target = id ∧ h.Onboarded id
  | _ => False

theorem Workflow.concluded {f : Workflow} {id url : String} {h : Holdings}
    {result : Except OnboardError Document} {events : List Event} (hbegins : f.Begins id h)
    (hcourse : f.Course result events) (hurl : Event.Resolves url events) :
    Holdings.Concluded id result (Event.tasks events) (h.after url events) := by
  cases f with
  | onboard kind request => exact hbegins.elim
  | onboardItem body token =>
    exact Holdings.concluded_onboardItem hcourse hurl hbegins.1 hbegins.2
  | offboard kind request => exact hbegins.elim
  | offboardItem target token =>
    obtain ⟨rfl, honboarded⟩ := hbegins
    obtain ⟨d, hd⟩ := Option.isSome_iff_exists.mp honboarded.1.1
    have hid : target ≠ "" :=
      EntityKind.identifierOf_ne_empty (h.catalogues.localSide.keyed .item target d hd)
    exact Holdings.concluded_offboardItem hcourse hurl hid honboarded

namespace ItemWorld

variable {σ : Type} {w : ItemWorld σ} {s : σ} {v : Verb} {f : Workflow} {id : String}

/-- A verb that succeeds, or whose repair is counted as repaired, leaves an item in place or
nowhere. Only where its local copy was made again, it is in both catalogues without an adapter. -/
theorem settle_item (hf : v.workflow? = some f) (hbegins : f.Begins id (w.holdings s))
    (p : RetryPolicy) :
    let settled := v.settle p w.toWorld s
    let final := w.holdings settled.repairs.after
    (∃ doc, settled.call.result = .ok doc) ∨ .counted .repaired ∈ settled.repairs.events →
      ((∀ task ∈ Event.tasks settled.call.events, task.action ≠ .recreateLocalFromCentral) →
        final.Onboarded id ∨ final.Absent id) ∧
      ((∃ task ∈ Event.tasks settled.call.events, task.action = .recreateLocalFromCentral) →
        final.HeldByBoth id ∧ final.registered id = false) := by
  intro settled final hend
  obtain ⟨hcourse, hleads⟩ := Workflow.takes_perform hf p w.toWorld s
  have hconcluded : Holdings.Concluded id settled.call.result (Event.tasks settled.call.events)
      (w.holdings settled.call.after) := by
    have hafter : w.holdings settled.call.after = _ := holdings_of_leads hleads
    rw [hafter]
    exact Workflow.concluded hbegins hcourse (resolves_of_leads hleads)
  cases hresult : settled.call.result with
  | ok doc =>
    rw [hresult] at hconcluded
    obtain ⟨hnone, hsettled⟩ := hconcluded
    have hrepairs : settled.repairs = _ := Activity.settle_of_nil hnone
    have hfinal : final = w.holdings settled.call.after := by
      change w.holdings settled.repairs.after = _
      rw [hrepairs]
      rfl
    rw [hnone, hfinal]
    exact ⟨fun _ => hsettled, fun ⟨_, hin, _⟩ => absurd hin List.not_mem_nil⟩
  | error error =>
    rw [hresult] at hconcluded hend
    have hrepaired : .counted .repaired ∈ settled.repairs.events := by
      rcases hend with ⟨doc, hok⟩ | hrepaired
      · exact nomatch hok
      · exact hrepaired
    obtain ⟨task, hone, hmended⟩ := mended_of_repaired hconcluded hrepaired
    have htasks : Event.tasks settled.call.events = [task] := hone
    rw [htasks]
    constructor
    · exact fun hother => hmended.paired (hother task (List.mem_singleton_self _))
    · rintro ⟨task', hin, haction⟩
      obtain rfl := List.mem_singleton.mp hin
      rw [haction] at hmended
      exact hmended

/-- An item that the local catalogue refuses to delete has its adapter back at the end. -/
theorem settle_item_refused_deletion :
    let doc := Document.ofMembers [("id", .string "aqm"), ("label", .string "Air quality")]
    let both : Holdings := ⟨⟨.bind .empty .item doc, .bind .empty .item doc⟩, fun _ => true⟩
    let script := Script.empty.addCalls (.delete .localSide) [.error (.status 500 "down")] none
    let verb := Verb.offboardItem "aqm" ⟨"token"⟩
    let settled := verb.settle .standard (scripted "http://rs").toWorld (both, script)
    (Workflow.offboardItem "aqm" ⟨"token"⟩).Begins "aqm" both ∧
      .counted .repaired ∈ settled.repairs.events ∧
      (settled.repairs.after.1.Onboarded "aqm" ∨ settled.repairs.after.1.Absent "aqm") := by
  intro doc both script verb settled
  have hid : EntityKind.item.identifierOf doc = some "aqm" := by decide
  have hheld := Option.isSome_of_eq_some (Catalogue.held_bind (c := .empty) hid)
  have hbegins : (Workflow.offboardItem "aqm" ⟨"token"⟩).Begins "aqm" both :=
    ⟨rfl, ⟨hheld, hheld⟩, rfl⟩
  have hrepaired : Event.counted .repaired ∈ settled.repairs.events := by
    rw [Event.mem_counted_iff]
    decide +kernel
  have haction : ∀ task ∈ Event.tasks settled.call.events,
      task.action ≠ .recreateLocalFromCentral := by decide +kernel
  exact ⟨hbegins, hrepaired, (settle_item rfl hbegins .standard (Or.inr hrepaired)).1 haction⟩

/-- An item that the central catalogue refuses to delete is back in the local one, but its adapter
is not. -/
theorem repaired_without_adapter :
    let doc := Document.ofMembers [("id", .string "aqm"), ("label", .string "Air quality")]
    let both : Holdings := ⟨⟨.bind .empty .item doc, .bind .empty .item doc⟩, fun _ => true⟩
    let script := Script.empty.addCalls (.delete .centralSide) [] (some (.error (.status 500 "down")))
    let verb := Verb.offboardItem "aqm" ⟨"token"⟩
    let settled := verb.settle .standard (scripted "http://rs").toWorld (both, script)
    (Workflow.offboardItem "aqm" ⟨"token"⟩).Begins "aqm" both ∧
      .counted .repaired ∈ settled.repairs.events ∧
      ¬(settled.repairs.after.1.Onboarded "aqm" ∨ settled.repairs.after.1.Absent "aqm") := by
  intro doc both script verb settled
  have hid : EntityKind.item.identifierOf doc = some "aqm" := by decide
  have hheld := Option.isSome_of_eq_some (Catalogue.held_bind (c := .empty) hid)
  have hrepaired : Event.counted .repaired ∈ settled.repairs.events := by
    rw [Event.mem_counted_iff]
    decide +kernel
  have hgone : settled.repairs.after.1.registered "aqm" = false := by decide +kernel
  have hback : (settled.repairs.after.1.catalogues.localSide.held .item "aqm").isSome = true := by
    decide +kernel
  refine ⟨⟨rfl, ⟨hheld, hheld⟩, rfl⟩, hrepaired, ?_⟩
  rintro (⟨-, hregistered⟩ | ⟨⟨hnone, -⟩, -⟩)
  · exact nomatch hgone.symm.trans hregistered
  · rw [hnone] at hback
    exact nomatch hback

end ItemWorld

end TwinCatalogue
