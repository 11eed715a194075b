import TwinCatalogue.Proofs.Catalogue.Basic
import TwinCatalogue.Proofs.Onboarding.Workflow
import TwinCatalogue.Proofs.Repair.Verdict
import TwinCatalogue.Script

/-! What has happened when a call is refused because it names no entity. Offboarding an item asks
for the identifier only after the adapter is gone; all else that deletes, and every operation on a
single catalogue, asks for it first. -/

namespace TwinCatalogue

variable {σ : Type}

instance decidableEqError {ε α : Type} [DecidableEq ε] (result : Except ε α) (error : ε) :
    Decidable (result = .error error) :=
  match result with
  | .ok _ => .isFalse fun h => nomatch h
  | .error e => decidable_of_iff (e = error) ⟨congrArg _, Except.error.inj⟩

section Catalogue

variable {kind kind' : EntityKind} {operation : Operation} {request : Request}
  {result : Except OnboardError Document} {events : List Event}

theorem LocalCourse.refused (h : LocalCourse kind operation request result events)
    (hresult : result = .error (.missingIdentifier kind')) :
    StoreCall.ofRequest kind operation request = none ∧ kind' = kind ∧ events = [] := by
  cases h with
  | unnamed hcall =>
    cases hresult
    exact ⟨hcall, rfl, rfl⟩
  | failed => exact nomatch hresult
  | done => exact nomatch hresult

theorem CentralCourse.refused (h : CentralCourse kind operation request result events)
    (hresult : result = .error (.missingIdentifier kind')) :
    StoreCall.ofRequest kind operation request = none ∧ kind' = kind ∧ events = [] := by
  cases h with
  | unnamed hcall =>
    cases hresult
    exact ⟨hcall, rfl, rfl⟩
  | unminted => exact nomatch hresult
  | gaveUp =>
    exact absurd (Except.error.inj hresult) (OnboardError.ofTerminal_ne_missingIdentifier _ _)
  | done => exact nomatch hresult

theorem executeOn_refused {p : RetryPolicy} {side : Side} {w : World σ} {s : σ}
    (h : ((executeOn p kind operation request side).run w s).result =
      .error (.missingIdentifier kind')) :
    ((executeOn p kind operation request side).run w s).events = [] := by
  cases side with
  | localSide => exact ((takes_executeOn_local p kind operation request w s).1.refused h).2.2
  | centralSide => exact ((takes_executeOn_central p kind operation request w s).1.refused h).2.2

theorem execute_refused {p : RetryPolicy} {target : String} {w : World σ} {s : σ}
    (h : ((execute p kind operation request target).run w s).result =
      .error (.missingIdentifier kind')) :
    ((execute p kind operation request target).run w s).events = [] := by
  unfold execute at h ⊢
  cases hside : Side.parse? target with
  | none => rfl
  | some side =>
    rw [hside] at h
    exact executeOn_refused h

end Catalogue

theorem Adapter.ServerCourse.ne_missingIdentifier {id : String} {token : Token}
    {call : String → Call} {entry : String → LogEntry} {parting : String → StoreError → List Event}
    {result : Except OnboardError Document} {events : List Event}
    (h : ServerCourse id token call entry parting result events) (kind : EntityKind) :
    result ≠ .error (.missingIdentifier kind) := by
  intro hresult
  cases h with
  | unresolved hresolve =>
    obtain rfl := Except.error.inj hresult
    generalize hfound : Except.error _ = found at hresolve
    cases hresolve with
    | failed error =>
      exact OnboardError.ofTerminal_ne_missingIdentifier error kind (Except.error.inj hfound).symm
    | nowhere => exact nomatch hfound
    | found => exact nomatch hfound
  | @failed url error events tried =>
    cases error with
    | timeout url => exact nomatch hresult
    | _ => exact nomatch hresult
  | done => exact nomatch hresult

theorem Request.identifier_forId_eq_none {kind : EntityKind} {id : String} {path : Option String}
    {token : Token} (h : (forId kind id path token).identifier kind = none) : id = "" := by
  by_contra hid
  exact nomatch (identifier_forId hid path token).symm.trans h

namespace Onboarding

variable {kind kind' : EntityKind} {request : Request} {id : String} {token : Token}
  {result : Except OnboardError Document} {events : List Event}

theorem DeleteCourse.refused_events (h : DeleteCourse kind request result events)
    (hresult : result = .error (.missingIdentifier kind')) : events = [] := by
  cases h with
  | refused hlocal => exact (hlocal.refused hresult).2.2
  | passed hlocal hwrite =>
    obtain ⟨call, hcall, -⟩ := hlocal.called_mem
    exact nomatch hcall.symm.trans (hwrite.refused hresult).1

/-- By the time an item is found to have no identifier its adapter is gone, and the repair that
should bring it back has no identifier either. -/
theorem ItemDeleteCourse.refused_events (h : ItemDeleteCourse id token result events)
    (hresult : result = .error (.missingIdentifier kind')) :
    id = "" ∧ kind' = .item ∧ (∃ url doc, .called (.deregister url id token) (.ok doc) ∈ events) ∧
      .counted .primaryFailures ∈ events ∧
      Event.tasks events = [restoreTask (itemRequest id token)] ∧
      (restoreTask (itemRequest id token)).id = none := by
  cases h with
  | kept hadapter => exact absurd hresult (Adapter.ServerCourse.ne_missingIdentifier hadapter kind')
  | refused hadapter hlocal =>
    obtain ⟨hcall, rfl, rfl⟩ := hlocal.refused hresult
    have hid := (StoreCall.ofRequest_eq_none_iff.mp hcall).2
    obtain ⟨url, hcalled⟩ := Adapter.ServerCourse.called_mem hadapter
    refine ⟨Request.identifier_forId_eq_none hid, rfl,
      ⟨url, _, List.mem_append_left _ hcalled⟩, ?_, ?_, hid⟩
    · exact List.mem_append_right _ List.mem_cons_self
    · rw [Event.tasks_append, Adapter.DeleteCourse.tasks hadapter]
      rfl
  | passed hadapter hlocal hwrite =>
    obtain ⟨call, hcall, -⟩ := hlocal.called_mem
    exact nomatch hcall.symm.trans (hwrite.refused hresult).1

end Onboarding

theorem Verb.refused_events {v : Verb} (hv : v.workflow? = none) {p : RetryPolicy} {w : World σ}
    {s : σ} {kind : EntityKind}
    (h : ((v.perform p).run w s).result = .error (.missingIdentifier kind)) :
    ((v.perform p).run w s).events = [] := by
  cases v with
  | execute kind operation request target =>
    rw [perform] at h ⊢
    exact execute_refused h
  | executeOn kind operation request side =>
    rw [perform] at h ⊢
    exact executeOn_refused h
  | createAdapter id token =>
    rw [perform] at h
    have hcourse := (Adapter.takes_create p id token w s).1
    exact absurd h (Adapter.ServerCourse.ne_missingIdentifier hcourse kind)
  | deleteAdapter id token =>
    rw [perform] at h
    have hcourse := (Adapter.takes_delete p id token w s).1
    exact absurd h (Adapter.ServerCourse.ne_missingIdentifier hcourse kind)
  | offboard kind id path token =>
    rw [workflow?] at hv
    split at hv <;> exact absurd hv (Option.some_ne_none _)
  | _ => exact absurd hv (Option.some_ne_none _)

/-- A call that creates nothing in both catalogues and is refused for want of an identifier has
done nothing at all, unless it offboards an item under the empty identifier. -/
theorem perform_refused {v : Verb} (hv : ∀ f, v.workflow? = some f → f.operation = .delete)
    (p : RetryPolicy) (w : World σ) (s : σ) {kind : EntityKind}
    (h : ((v.perform p).run w s).result = .error (.missingIdentifier kind)) :
    let events := ((v.perform p).run w s).events
    match v.workflow? with
    | some (.offboardItem id token) =>
      let task := Onboarding.restoreTask (Onboarding.itemRequest id token)
      id = "" ∧ kind = .item ∧ (∃ url doc, .called (.deregister url id token) (.ok doc) ∈ events) ∧
        .counted .primaryFailures ∈ events ∧ Event.tasks events = [task] ∧ task.id = none
    | _ => events = [] := by
  intro events
  cases hflow : v.workflow? with
  | none => exact v.refused_events hflow h
  | some f =>
    have hcourse : f.Course _ events := (f.takes_perform hflow p w s).1
    cases f with
    | onboard kind request => exact nomatch hv _ hflow
    | onboardItem body token => exact nomatch hv _ hflow
    | offboard kind request => exact Onboarding.DeleteCourse.refused_events hcourse h
    | offboardItem id token => exact Onboarding.ItemDeleteCourse.refused_events hcourse h

theorem Verb.offboardItem_deletes (id : String) (token : Token) :
    ∀ f, (offboardItem id token).workflow? = some f → f.operation = .delete := by
  intro f hf
  obtain rfl := Option.some.inj hf
  rfl

/-- All that is scripted is where the resource server of any item is. -/
def Script.served (url : String) : Script :=
  empty.addCalls (.related .localSide) []
    (some (.ok (.ofMembers [(Adapter.urlKey, .string url)])))

/-- The call fails in the end as a deletion without identifier would at once, but the resource
server has dropped the adapter by then. -/
theorem perform_refused_empty_identifier :
    let v := Verb.offboardItem "" ⟨"token"⟩
    let e := (v.perform .standard).run Script.world (.served "http://rs")
    (∀ f, v.workflow? = some f → f.operation = .delete) ∧
      e.result = .error (.missingIdentifier .item) ∧
      (∃ url doc, .called (.deregister url "" ⟨"token"⟩) (.ok doc) ∈ e.events) ∧
      Event.tasks e.events = [Onboarding.restoreTask (Onboarding.itemRequest "" ⟨"token"⟩)] := by
  intro v e
  have hv : ∀ f, v.workflow? = some f → f.operation = .delete := Verb.offboardItem_deletes _ _
  have hresult : e.result = .error (.missingIdentifier .item) := by decide +kernel
  obtain ⟨-, -, hcalled, -, htasks, -⟩ := perform_refused hv .standard _ _ hresult
  exact ⟨hv, hresult, hcalled, htasks⟩

theorem refused_without_identifier_has_effects : ¬ ∀ (v : Verb) (p : RetryPolicy) (script : Script)
    (kind : EntityKind), (∀ f, v.workflow? = some f → f.operation = .delete) →
      let e := (v.perform p).run Script.world script
      e.result = .error (.missingIdentifier kind) →
        e.events.filter Event.isCall = [] ∧ Event.tasks e.events = [] ∧
          ∀ c, Event.counters c e.events = c := by
  intro hall
  obtain ⟨-, htasks, -⟩ := hall _ .standard (.served "http://rs") .item
    (Verb.offboardItem_deletes "" ⟨"token"⟩) (by decide +kernel)
  have hone : Event.tasks ((Verb.perform .standard (.offboardItem "" ⟨"token"⟩)).run
      Script.world (.served "http://rs")).events ≠ [] := by decide +kernel
  exact hone htasks

end TwinCatalogue
