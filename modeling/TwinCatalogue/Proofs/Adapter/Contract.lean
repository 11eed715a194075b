import TwinCatalogue.Proofs.Adapter.Course
import TwinCatalogue.Proofs.Retry.Calls

/-! What registering and deregistering an adapter do, whatever the remote systems reply. The two
differ in the call that they make and in what they do when they give up. -/

namespace TwinCatalogue.Adapter

variable {σ : Type}

inductive Change where
  | registration
  | deregistration

namespace Change

def perform (change : Change) (p : RetryPolicy) (id : String) (token : Token) :
    Activity σ (Except OnboardError Document) :=
  match change with
  | registration => create p id token
  | deregistration => delete p id token

def call (change : Change) (url id : String) (token : Token) : Call :=
  match change with
  | registration => .register url id token
  | deregistration => .deregister url id token

/-- An item whose registration was given up is taken back; one that stays registered is left. -/
def repairs (change : Change) (id : String) (token : Token) : List RepairTask :=
  let rollback : RepairTask :=
    { kind := .item
      operation := .create
      failed := .localSide
      action := .rollbackItem
      id := some id
      path := none
      token := token
      adminToken := none }
  match change with
  | registration => [rollback]
  | deregistration => []

def entry (change : Change) (id url : String) : LogEntry :=
  match change with
  | registration => .registering id url
  | deregistration => .deregistering id url

def parting (change : Change) (id : String) (token : Token) (url : String) (error : StoreError) :
    List Event :=
  match change with
  | registration => rollbackEvents id token url error
  | deregistration => [.counted .primaryFailures, .logged (.deregistrationFailed id url error)]

def giveUp (change : Change) (id : String) (token : Token) (url : String) (error : StoreError) :
    Activity σ (Except OnboardError Document) :=
  fun _ s => ⟨.error (failure error), change.parting id token url error, s⟩

theorem tasks_parting (change : Change) (id : String) (token : Token) (url : String)
    (error : StoreError) :
    Event.tasks (change.parting id token url error) = change.repairs id token := by
  cases change <;> rfl

theorem filter_isCall_parting (change : Change) (id : String) (token : Token) (url : String)
    (error : StoreError) : (change.parting id token url error).filter Event.isCall = [] := by
  cases change <;> rfl

theorem counters_parting (change : Change) (id : String) (token : Token) (url : String)
    (error : StoreError) (c : Counters) :
    Event.counters c (change.parting id token url error) =
      { c with
        primaryFailures := c.primaryFailures + 1
        dispatched := c.dispatched + (change.repairs id token).length } := by
  cases change <;> rfl

section Run

variable {p : RetryPolicy} {id url : String} {token : Token} {w : World σ} {s : σ}

theorem perform_eq (change : Change) : (change.perform p id token : Activity σ _) =
    resolve id token >>= fun found =>
      match found with
      | .error error => pure (.error error)
      | .ok url => Activity.log (change.entry id url) >>= fun _ =>
        p.retrying (Activity.call (change.call url id token)) >>= fun outcome =>
          match outcome.toExcept with
          | .ok doc => pure (.ok doc)
          | .error error => change.giveUp id token url error := by
  cases change <;> rfl

theorem perform_run_unresolved {error : OnboardError} (change : Change)
    (hresolve : ((resolve id token).run w s).result = .error error) :
    (change.perform p id token).run w s =
      ⟨.error error, ((resolve id token).run w s).events, ((resolve id token).run w s).after⟩ := by
  rw [perform_eq, Activity.run_bind, hresolve]
  simp

theorem perform_run_ok {doc : Document} (change : Change)
    (hresolve : ((resolve id token).run w s).result = .ok url)
    (hresult : ((p.retrying (Activity.call (change.call url id token))).run w
      ((resolve id token).run w s).after).result.toExcept = .ok doc) :
    let found := (resolve id token).run w s
    let tried := (p.retrying (Activity.call (change.call url id token))).run w found.after
    (change.perform p id token).run w s =
      ⟨.ok doc, found.events ++ .logged (change.entry id url) :: tried.events, tried.after⟩ := by
  rw [perform_eq, Activity.run_bind, hresolve]
  simp [hresult]

theorem perform_run_error {error : StoreError} (change : Change)
    (hresolve : ((resolve id token).run w s).result = .ok url)
    (hresult : ((p.retrying (Activity.call (change.call url id token))).run w
      ((resolve id token).run w s).after).result.toExcept = .error error) :
    let found := (resolve id token).run w s
    let tried := (p.retrying (Activity.call (change.call url id token))).run w found.after
    (change.perform p id token).run w s =
      ⟨.error (failure error),
        found.events ++ .logged (change.entry id url) ::
          (tried.events ++ change.parting id token url error), tried.after⟩ := by
  rw [perform_eq, Activity.run_bind, hresolve]
  simp only [Activity.run_bind, Activity.run_log, hresult]
  rfl

end Run

/-- Once the address is known, one retried call is made there, and a failure of it hands over the
repairs and nothing else. -/
theorem perform_resolved {p : RetryPolicy} {id url : String} {token : Token} {w : World σ} {s : σ}
    (change : Change) (hresolve : ((resolve id token).run w s).result = .ok url) :
    let e := (change.perform p id token).run w s
    let found := (resolve id token).run w s
    let reply := p.replyTo (change.call url id token) w found.after
    ∃ m, IsLeast {j | p.Stops (j + 1) (reply j)} m ∧
      e.events.filter Event.isCall = found.events.filter Event.isCall ++
        (List.range (m + 1)).map (fun j => .called (change.call url id token) (reply j)) ∧
      match reply m with
      | .ok doc =>
        e.result = .ok doc ∧ Event.tasks e.events = Event.tasks found.events ∧
          ∀ c, Event.counters c e.events =
            let c := Event.counters c found.events
            { c with retries := c.retries + m }
      | .error error =>
        e.result = .error (failure error) ∧
          Event.tasks e.events = Event.tasks found.events ++ change.repairs id token ∧
          ∀ c, Event.counters c e.events =
            let c := Event.counters c found.events
            { c with
              retries := c.retries + m
              primaryFailures := c.primaryFailures + 1
              dispatched := c.dispatched + (change.repairs id token).length } := by
  intro e found reply
  obtain ⟨m, hm, hresult, hcalls, htasks, hcounters⟩ :=
    p.retrying_call (change.call url id token) w found.after
  have hend := (congrArg RetryOutcome.toExcept hresult).trans (p.toExcept_outcome _ _)
  refine ⟨m, hm, ?_⟩
  cases hlast : reply m with
  | ok doc =>
    have he : e = _ := change.perform_run_ok hresolve (hend.trans hlast)
    rw [he]
    refine ⟨?_, rfl, ?_, fun c => ?_⟩
    · rw [List.filter_append, List.filter_cons_of_neg Bool.false_ne_true, hcalls]
    · rw [Event.tasks_append]
      exact (congrArg _ htasks).trans (List.append_nil _)
    · rw [Event.counters_append]
      exact hcounters _
  | error error =>
    have he : e = _ := change.perform_run_error hresolve (hend.trans hlast)
    rw [he]
    refine ⟨?_, rfl, ?_, fun c => ?_⟩
    · rw [List.filter_append, List.filter_cons_of_neg Bool.false_ne_true, List.filter_append, hcalls,
        filter_isCall_parting, List.append_nil]
    · rw [Event.tasks_append]
      change _ ++ Event.tasks (_ ++ _) = _
      rw [Event.tasks_append, htasks, tasks_parting, List.nil_append]
    · rw [Event.counters_append]
      change Event.counters (Event.counters c found.events) (_ ++ _) = _
      rw [Event.counters_append, hcounters, counters_parting]

end Change

theorem resolve_run_error {id : String} {token : Token} {w : World σ} {s : σ} {error : StoreError}
    (hreply : (w.answer (lookup id token) s).1 = .error error) :
    (resolve id token).run w s = ⟨.error (.ofTerminal error),
      [.called (lookup id token) (.error error)], (w.answer (lookup id token) s).2⟩ := by
  rw [lookup] at hreply
  simp [resolve, lookup, relation, urlKey, hreply]

theorem resolve_run_ok {id : String} {token : Token} {w : World σ} {s : σ} {related : Document}
    (hreply : (w.answer (lookup id token) s).1 = .ok related) :
    (resolve id token).run w s =
      ⟨match registrationUrl related with
        | some url => .ok url
        | none => .error (.internal ("no " ++ urlKey ++ " related to item " ++ id)),
        [.called (lookup id token) (.ok related)], (w.answer (lookup id token) s).2⟩ := by
  rw [lookup] at hreply
  cases hurl : registrationUrl related <;> simp [resolve, lookup, relation, urlKey, hreply, hurl]

/-- The contract of registering and deregistering an adapter. The local catalogue is asked once
where the resource server of the item is; without an answer to that nothing else happens. Replies
of the resource server are counted from one, and the first that stops the policy is the last. -/
theorem Change.perform_contract (change : Change) (p : RetryPolicy) (id : String) (token : Token)
    (w : World σ) (s : σ) :
    let e := (change.perform p id token).run w s
    match (w.answer (lookup id token) s).1 with
    | .error error =>
      e.result = .error (match error with
        | .status code message => .remote code message
        | other => .internal other.message) ∧
      e.events = [.called (lookup id token) (.error error)] ∧
      Event.tasks e.events = [] ∧ ∀ c, Event.counters c e.events = c
    | .ok related =>
      match registrationUrl related with
      | none =>
        e.result = .error (.internal ("no " ++ urlKey ++ " related to item " ++ id)) ∧
        e.events = [.called (lookup id token) (.ok related)] ∧
        Event.tasks e.events = [] ∧ ∀ c, Event.counters c e.events = c
      | some url =>
        let call := change.call url id token
        let reply := fun n => p.replyTo call w (w.answer (lookup id token) s).2 (n - 1)
        ∃ n, IsLeast {j | 1 ≤ j ∧ p.Stops j (reply j)} n ∧
          e.events.filter Event.isCall = .called (lookup id token) (.ok related) ::
            (List.range' 1 n).map (fun j => .called call (reply j)) ∧
          match reply n with
          | .ok doc =>
            e.result = .ok doc ∧ Event.tasks e.events = [] ∧
              ∀ c, Event.counters c e.events = { c with retries := c.retries + (n - 1) }
          | .error error =>
            e.result = .error (match error with
              | .timeout url => .connectTimeout url
              | other => .internal other.message) ∧
            Event.tasks e.events = change.repairs id token ∧
            ∀ c, Event.counters c e.events =
              { c with
                retries := c.retries + (n - 1)
                primaryFailures := c.primaryFailures + 1
                dispatched := c.dispatched + (change.repairs id token).length } := by
  intro e
  cases hreply : (w.answer (lookup id token) s).1 with
  | error error =>
    have hresolve := resolve_run_error hreply
    have he : e = _ := change.perform_run_unresolved (congrArg Episode.result hresolve)
    rw [he, hresolve]
    refine ⟨?_, rfl, rfl, fun c => rfl⟩
    cases error <;> rfl
  | ok related =>
    have hresolve := resolve_run_ok hreply
    dsimp only
    cases hurl : registrationUrl related with
    | none =>
      rw [hurl] at hresolve
      have he : e = _ := change.perform_run_unresolved (congrArg Episode.result hresolve)
      rw [he, hresolve]
      exact ⟨rfl, rfl, rfl, fun c => rfl⟩
    | some url =>
      rw [hurl] at hresolve
      obtain ⟨m, hm, hcalls, hend⟩ :=
        change.perform_resolved (p := p) (congrArg Episode.result hresolve)
      rw [hresolve] at hm hcalls hend
      dsimp only
      refine ⟨m + 1, RetryPolicy.isLeast_from_one hm, ?_, ?_⟩
      · rw [hcalls]
        exact congrArg _ (RetryPolicy.map_from_one _ _).symm
      · simp only [Nat.add_sub_cancel]
        cases hlast : p.replyTo (change.call url id token) w (w.answer (lookup id token) s).2 m with
        | ok doc =>
          simp only [hlast] at hend
          exact hend
        | error error =>
          simp only [hlast] at hend
          refine ⟨hend.1.trans ?_, hend.2⟩
          cases error <;> rfl

end TwinCatalogue.Adapter
