import TwinCatalogue.Adapter
import TwinCatalogue.Proofs.Activity.Course

/-! The courses that registering and deregistering an adapter can take: one look-up in the local
catalogue, and then calls to the resource server that it names. -/

namespace TwinCatalogue.Adapter

variable {σ : Type} {id : String} {token : Token}

/-- The call that asks the local catalogue for the resource server of an item. -/
def lookup (id : String) (token : Token) : Call :=
  .store .localSide (.related id "resourceServer" ["resourceServerRegURL"]) token

inductive ResolveCourse (id : String) (token : Token) :
    Except OnboardError String → List Event → Prop
  | failed (error : StoreError) : ResolveCourse id token (.error (.ofTerminal error))
      [.called (lookup id token) (.error error)]
  | nowhere {related : Document} (hurl : registrationUrl related = none) :
      ResolveCourse id token
        (.error (.internal ("no " ++ urlKey ++ " related to item " ++ id)))
        [.called (lookup id token) (.ok related)]
  | found {related : Document} {url : String} (hurl : registrationUrl related = some url) :
      ResolveCourse id token (.ok url) [.called (lookup id token) (.ok related)]

/-- A call to the resource server of an item, after the record `entry` of it. Giving it up leaves
the events `parting`. -/
inductive ServerCourse (id : String) (token : Token) (call : String → Call)
    (entry : String → LogEntry) (parting : String → StoreError → List Event) :
    Except OnboardError Document → List Event → Prop
  | unresolved {error : OnboardError} {events : List Event}
      (hresolve : ResolveCourse id token (.error error) events) :
      ServerCourse id token call entry parting (.error error) events
  | failed {url : String} {error : StoreError} {events tried : List Event}
      (hresolve : ResolveCourse id token (.ok url) events)
      (htried : Retried (Asked (call url)) (.error error) tried) :
      ServerCourse id token call entry parting (.error (failure error))
        (events ++ .logged (entry url) :: (tried ++ parting url error))
  | done {url : String} {doc : Document} {events tried : List Event}
      (hresolve : ResolveCourse id token (.ok url) events)
      (htried : Retried (Asked (call url)) (.ok doc) tried) :
      ServerCourse id token call entry parting (.ok doc) (events ++ .logged (entry url) :: tried)

def rollbackEvents (id : String) (token : Token) (url : String) (error : StoreError) :
    List Event :=
  [.counted .primaryFailures, .logged (.registrationFailed id url error), .counted .dispatched,
    .logged (.dispatching (.rollback id token)), .dispatched (.rollback id token)]

def CreateCourse (id : String) (token : Token) : Except OnboardError Document → List Event → Prop :=
  ServerCourse id token (fun url => .register url id token) (.registering id)
    (rollbackEvents id token)

def DeleteCourse (id : String) (token : Token) : Except OnboardError Document → List Event → Prop :=
  ServerCourse id token (fun url => .deregister url id token) (.deregistering id)
    fun url error => [.counted .primaryFailures, .logged (.deregistrationFailed id url error)]

theorem ResolveCourse.calls {found : Except OnboardError String} {events : List Event} {e : Event}
    (h : ResolveCourse id token found events) (he : e ∈ events) :
    ∃ reply, e = .called (lookup id token) reply := by
  cases h with
  | failed error => exact ⟨_, List.mem_singleton.mp he⟩
  | nowhere hurl => exact ⟨_, List.mem_singleton.mp he⟩
  | found hurl => exact ⟨_, List.mem_singleton.mp he⟩

theorem ResolveCourse.tasks {found : Except OnboardError String} {events : List Event}
    (h : ResolveCourse id token found events) : Event.tasks events = [] := by
  cases h <;> rfl

section Server

variable {call : String → Call} {entry : String → LogEntry}
  {parting : String → StoreError → List Event} {result : Except OnboardError Document}
  {events : List Event} {e : Event}

theorem ServerCourse.tasks (h : ServerCourse id token call entry parting result events) :
    Event.tasks events = [] ∨ ∃ url error, result = .error (failure error) ∧
      Event.tasks events = Event.tasks (parting url error) := by
  cases h with
  | unresolved hresolve => exact Or.inl hresolve.tasks
  | @failed url error first tried hresolve htried =>
    refine Or.inr ⟨url, error, rfl, ?_⟩
    rw [Event.tasks_append, hresolve.tasks]
    change Event.tasks (tried ++ _) = _
    rw [Event.tasks_append, htried.call_tasks, List.nil_append]
  | done hresolve htried =>
    rw [Event.tasks_append, hresolve.tasks]
    exact Or.inl htried.call_tasks

/-- Calls to the resource server go to the address that the look-up gave. -/
theorem ServerCourse.calls (h : ServerCourse id token call entry parting result events)
    (hparting : ∀ url error, ∀ e ∈ parting url error, e.isCall = false) (he : e ∈ events)
    (hcall : e.isCall = true) : (∃ reply, e = .called (lookup id token) reply) ∨
      ∃ url reply, e = .called (call url) reply := by
  cases h with
  | unresolved hresolve => exact Or.inl (hresolve.calls he)
  | failed hresolve htried =>
    rcases List.mem_append.mp he with he | he
    · exact Or.inl (hresolve.calls he)
    · rcases List.mem_cons.mp he with rfl | he
      · exact nomatch hcall
      · rcases List.mem_append.mp he with he | he
        · exact Or.inr ⟨_, htried.calls he hcall⟩
        · exact absurd ((hparting _ _ e he).symm.trans hcall) Bool.false_ne_true
  | done hresolve htried =>
    rcases List.mem_append.mp he with he | he
    · exact Or.inl (hresolve.calls he)
    · rcases List.mem_cons.mp he with rfl | he
      · exact nomatch hcall
      · exact Or.inr ⟨_, htried.calls he hcall⟩

theorem ServerCourse.called_mem {doc : Document}
    (h : ServerCourse id token call entry parting (.ok doc) events) :
    ∃ url, .called (call url) (.ok doc) ∈ events := by
  cases h with
  | done hresolve htried =>
    exact ⟨_, List.mem_append_right _ (List.mem_cons_of_mem _ htried.called_mem)⟩

end Server

theorem CreateCourse.tasks {result : Except OnboardError Document} {events : List Event}
    (h : CreateCourse id token result events) :
    Event.tasks events = [] ∨ Event.tasks events = [.rollback id token] := by
  rcases ServerCourse.tasks h with hnone | ⟨url, error, -, hone⟩
  · exact Or.inl hnone
  · exact Or.inr hone

theorem CreateCourse.tasks_ok {doc : Document} {events : List Event}
    (h : CreateCourse id token (.ok doc) events) : Event.tasks events = [] := by
  rcases ServerCourse.tasks h with hnone | ⟨url, error, herror, -⟩
  · exact hnone
  · exact nomatch herror

theorem DeleteCourse.tasks {result : Except OnboardError Document} {events : List Event}
    (h : DeleteCourse id token result events) : Event.tasks events = [] := by
  rcases ServerCourse.tasks h with hnone | ⟨url, error, -, hnone⟩
  · exact hnone
  · exact hnone

theorem CreateCourse.calls {result : Except OnboardError Document} {events : List Event} {e : Event}
    (h : CreateCourse id token result events) (he : e ∈ events) (hcall : e.isCall = true) :
    (∃ reply, e = .called (lookup id token) reply) ∨
      ∃ url reply, e = .called (.register url id token) reply :=
  ServerCourse.calls h (by simp [rollbackEvents, Event.isCall]) he hcall

theorem DeleteCourse.calls {result : Except OnboardError Document} {events : List Event} {e : Event}
    (h : DeleteCourse id token result events) (he : e ∈ events) (hcall : e.isCall = true) :
    (∃ reply, e = .called (lookup id token) reply) ∨
      ∃ url reply, e = .called (.deregister url id token) reply :=
  ServerCourse.calls h (by simp [Event.isCall]) he hcall

theorem takes_resolve (id : String) (token : Token) :
    (resolve id token : Activity σ _).Takes (ResolveCourse id token) := by
  refine Activity.takes_call.bind fun reply events h => ?_
  rw [h]
  cases reply with
  | error error => exact Activity.takes_pure (.failed error)
  | ok related =>
    dsimp only
    split
    · exact Activity.takes_pure (.found ‹_›)
    · exact Activity.takes_pure (.nowhere ‹_›)

theorem takes_server {p : RetryPolicy} {call : String → Call} {entry : String → LogEntry}
    {parting : String → StoreError → List Event}
    {giveUp : String → StoreError → Activity σ (Except OnboardError Document)}
    (hgiveUp : ∀ url error, (giveUp url error).Takes fun result events =>
      result = .error (failure error) ∧ events = parting url error) :
    (resolve id token >>= fun found =>
      match found with
      | .error error => pure (.error error)
      | .ok url => Activity.log (entry url) >>= fun _ =>
        p.retrying (Activity.call (call url)) >>= fun outcome =>
          match outcome.toExcept with
          | .ok doc => pure (.ok doc)
          | .error error => giveUp url error : Activity σ _).Takes
      (ServerCourse id token call entry parting) := by
  refine (takes_resolve id token).bind fun found events hresolve => ?_
  cases found with
  | error error =>
    exact Activity.takes_pure_after (.unresolved hresolve)
  | ok url =>
    refine (Activity.takes_log _).bind fun _ record hrecord => ?_
    subst hrecord
    refine (Activity.takes_retrying _).bind fun outcome tried htried => ?_
    cases houtcome : outcome.toExcept with
    | ok doc =>
      rw [houtcome] at htried
      refine Activity.takes_pure ?_
      rw [List.append_nil]
      exact .done hresolve htried
    | error error =>
      rw [houtcome] at htried
      refine (hgiveUp url error).mono ?_
      rintro _ _ ⟨rfl, rfl⟩
      exact .failed hresolve htried

theorem takes_create (p : RetryPolicy) (id : String) (token : Token) :
    (create p id token : Activity σ _).Takes (CreateCourse id token) := by
  refine takes_server fun url error => ?_
  refine (Activity.takes_count _).bind fun _ count hcount =>
    (Activity.takes_log _).bind fun _ record hrecord =>
      (Activity.takes_dispatch _).bind fun _ handed hhanded => Activity.takes_pure ⟨rfl, ?_⟩
  rw [hcount, hrecord, hhanded]
  rfl

theorem takes_delete (p : RetryPolicy) (id : String) (token : Token) :
    (delete p id token : Activity σ _).Takes (DeleteCourse id token) := by
  refine takes_server fun url error => ?_
  refine (Activity.takes_count _).bind fun _ count hcount =>
    (Activity.takes_log _).bind fun _ record hrecord => Activity.takes_pure ⟨rfl, ?_⟩
  rw [hcount, hrecord]
  rfl

end TwinCatalogue.Adapter
