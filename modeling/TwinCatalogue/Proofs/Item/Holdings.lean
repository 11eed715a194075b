import TwinCatalogue.Proofs.Catalogue.Repair
import TwinCatalogue.Proofs.Dispatch.Course
import TwinCatalogue.Proofs.Repair.Course
import Mathlib.Logic.Function.Basic

/-! What the two catalogues and a resource server hold between them, and what the events of a run
make of it. Only a call that succeeds changes anything. -/

namespace TwinCatalogue

/-- Every address that look-ups find is `url`. -/
def Event.Resolves (url : String) (events : List Event) : Prop :=
  ∀ id token related found, .called (Adapter.lookup id token) (.ok related) ∈ events →
    Adapter.registrationUrl related = some found → found = url

theorem Event.Resolves.mono {url : String} {events part : List Event} (h : Resolves url events)
    (hpart : part ⊆ events) : Resolves url part :=
  fun id token related found hin => h id token related found (hpart hin)

theorem Event.Resolves.found {url found id : String} {token : Token} {events part : List Event}
    (h : Resolves url events) (hpart : part ⊆ events)
    (hcourse : Adapter.ResolveCourse id token (.ok found) part) : found = url := by
  cases hcourse with
  | found hurl => exact h _ _ _ _ (hpart (List.mem_singleton_self _)) hurl

/-- Both catalogues, and the items that are registered at the resource server. -/
structure Holdings where
  catalogues : Catalogues
  registered : String → Bool

namespace Holdings

/-- The holdings behind an event, where the resource server has the address `url`. -/
def apply (url : String) (h : Holdings) : Event → Holdings
  | .called (.store side call token) (.ok _) =>
    { h with catalogues := h.catalogues.write (.store side call token) }
  | .called (.register server id _) (.ok _) =>
    { h with registered := if server = url then Function.update h.registered id true
        else h.registered }
  | .called (.deregister server id _) (.ok _) =>
    { h with registered := if server = url then Function.update h.registered id false
        else h.registered }
  | _ => h

def after (url : String) (h : Holdings) (events : List Event) : Holdings :=
  events.foldl (apply url) h

variable {url : String} {h : Holdings}

@[simp] theorem after_nil : h.after url [] = h := rfl

@[simp] theorem after_cons (e : Event) (rest : List Event) :
    h.after url (e :: rest) = (h.apply url e).after url rest := rfl

@[simp] theorem after_append (first second : List Event) :
    h.after url (first ++ second) = (h.after url first).after url second :=
  List.foldl_append

theorem apply_of_not_isCall {e : Event} (he : e.isCall = false) : h.apply url e = h := by
  cases e with
  | called call reply => exact nomatch he
  | _ => rfl

theorem apply_error (call : Call) (error : StoreError) :
    h.apply url (.called call (.error error)) = h := by
  cases call <;> rfl

theorem catalogues_apply_ok (call : Call) (doc : Document) :
    (h.apply url (.called call (.ok doc))).catalogues = h.catalogues.write call := by
  cases call <;> rfl

theorem apply_register (id : String) (token : Token) (doc : Document) :
    h.apply url (.called (.register url id token) (.ok doc)) =
      { h with registered := Function.update h.registered id true } := by
  rw [apply, if_pos rfl]

theorem apply_deregister (id : String) (token : Token) (doc : Document) :
    h.apply url (.called (.deregister url id token) (.ok doc)) =
      { h with registered := Function.update h.registered id false } := by
  rw [apply, if_pos rfl]

/-- What no event changes is the same in the end. -/
theorem after_preserves {α : Type} {f : Holdings → α} {events : List Event}
    (he : ∀ e ∈ events, ∀ h : Holdings, f (h.apply url e) = f h) :
    f (h.after url events) = f h := by
  induction events generalizing h with
  | nil => rfl
  | cons e rest ih =>
    rw [after_cons, ih fun e hin => he e (List.mem_cons_of_mem _ hin)]
    exact he e List.mem_cons_self h

theorem after_of_forall {events : List Event} (he : ∀ e ∈ events, ∀ h : Holdings,
    h.apply url e = h) : h.after url events = h :=
  after_preserves (f := id) he

/-- However often a call is tried, it is carried out as its last reply says. -/
theorem after_retried {call : Call} {reply : Reply} {events : List Event}
    (hcourse : Retried (Asked call) reply events) :
    h.after url events = h.apply url (.called call reply) := by
  have hpause : ∀ {events : List Event} {h : Holdings}, (∀ e ∈ events, e.isPause = true) →
      h.after url events = h := by
    intro events h hall
    exact after_of_forall fun e he h => apply_of_not_isCall (Event.isCall_of_isPause (hall e he))
  -- By induction on the attempts: all but the last have failed, and have changed nothing.
  induction hcourse generalizing h with
  | last hasked hparting =>
    obtain rfl := hasked
    rw [after_append, hpause hparting]
    rfl
  | again hasked hpauses _ ih =>
    obtain rfl := hasked
    rw [after_append, after_append, hpause hpauses, ih, after_cons, apply_error, after_nil]

theorem apply_lookup (id : String) (token : Token) (reply : Reply) :
    h.apply url (.called (Adapter.lookup id token) reply) = h := by
  cases reply with
  | error error => exact apply_error _ error
  | ok related => exact congrArg (Holdings.mk · h.registered) (Catalogues.write_related _ _ _ _ _ _)

theorem after_resolve {id : String} {token : Token} {found : Except OnboardError String}
    {events : List Event} (hcourse : Adapter.ResolveCourse id token found events) :
    h.after url events = h := by
  refine after_of_forall fun e he h => ?_
  obtain ⟨reply, rfl⟩ := hcourse.calls he
  exact apply_lookup id token reply

section

variable {kind : EntityKind} {operation : Operation} {request : Request} {call : StoreCall}
  {events : List Event}

theorem after_local_ok (hcall : StoreCall.ofRequest kind operation request = some call)
    {doc : Document} (hcourse : LocalCourse kind operation request (.ok doc) events) :
    h.after url events = h.apply url (.called (.store .localSide call request.token) (.ok doc)) := by
  cases hcourse with
  | done hcall' =>
    obtain rfl := Option.some.inj (hcall.symm.trans hcall')
    rfl

theorem after_local_error {error : OnboardError}
    (hcourse : LocalCourse kind operation request (.error error) events) :
    h.after url events = h := by
  cases hcourse with
  | unnamed => rfl
  | failed hcall =>
    rw [after_cons, apply_error]
    rfl

theorem after_central_ok (hcall : StoreCall.ofRequest kind operation request = some call)
    {doc : Document} (hcourse : CentralCourse kind operation request (.ok doc) events) :
    ∃ admin, h.after url events =
      h.apply url (.called (.store .centralSide call admin) (.ok doc)) := by
  cases hcourse with
  | @done _ admin _ _ hcall' htried =>
    obtain rfl := Option.some.inj (hcall.symm.trans hcall')
    rw [after_cons]
    exact ⟨admin, after_retried htried⟩

theorem after_central_error {error : OnboardError}
    (hcourse : CentralCourse kind operation request (.error error) events) :
    h.after url events = h := by
  cases hcourse with
  | unnamed => rfl
  | unminted => rfl
  | gaveUp hcall htried =>
    rw [after_cons, after_append, after_retried htried, apply_error]
    exact after_of_forall fun e he h => apply_of_not_isCall (isCall_giveUpEvents he)

end

section

variable {id : String} {token : Token} {call : String → Call} {entry : String → LogEntry}
  {parting : String → StoreError → List Event} {events : List Event}

/-- A resource server that answers has carried out its call, at the address `url` if that is the
only one that look-ups give. -/
theorem after_server_ok {doc : Document}
    (hcourse : Adapter.ServerCourse id token call entry parting (.ok doc) events)
    (hurl : Event.Resolves url events) :
    h.after url events = h.apply url (.called (call url) (.ok doc)) := by
  cases hcourse with
  | done hresolve htried =>
    obtain rfl := hurl.found (List.subset_append_left _ _) hresolve
    rw [after_append, after_resolve hresolve, after_cons, after_retried htried]
    rfl

theorem after_server_error {error : OnboardError}
    (hcourse : Adapter.ServerCourse id token call entry parting (.error error) events)
    (hparting : ∀ url error, ∀ e ∈ parting url error, e.isCall = false) :
    h.after url events = h := by
  cases hcourse with
  | unresolved hresolve => exact after_resolve hresolve
  | failed hresolve htried =>
    rw [after_append, after_resolve hresolve, after_cons, after_append, after_retried htried,
      apply_error]
    exact after_of_forall fun e he h => apply_of_not_isCall (hparting _ _ e he)

theorem after_phase {call : Call}
    (hcourse : RepairTask.PhaseCourse (Asked call) (.ok ()) events) :
    ∃ doc, h.after url events = h.apply url (.called call (.ok doc)) := by
  obtain ⟨reply, htried, hreply⟩ := hcourse
  cases reply with
  | ok doc => exact ⟨doc, after_retried htried⟩
  | error error => exact nomatch hreply

end

end Holdings

end TwinCatalogue
