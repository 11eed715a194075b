import TwinCatalogue.Dispatch
import TwinCatalogue.Proofs.Retry.Calls

/-! What executing an operation on the central catalogue does, whatever the remote systems reply:
one token, one retried call, and after a write that was given up one repair. -/

namespace TwinCatalogue

variable {σ : Type}

theorem StoreCall.ofRequest_eq_none_iff {kind : EntityKind} {operation : Operation}
    {request : Request} : StoreCall.ofRequest kind operation request = none ↔
      (operation = .delete ∨ operation = .get) ∧ request.identifier kind = none := by
  cases operation <;> simp [StoreCall.ofRequest]

/-- The repair of a central write that was given up; reading has none. -/
def centralRepair (kind : EntityKind) (operation : Operation) (request : Request)
    (admin : Token) : List RepairTask :=
  let task (action : Repair) : RepairTask :=
    { kind := kind
      operation := operation
      failed := .centralSide
      action := action
      id := request.identifier kind
      path := request.path
      token := request.token
      adminToken := some admin }
  match operation with
  | .create => [task .deleteLocal]
  | .update => [task .restoreLocalFromCentral]
  | .delete => [task .recreateLocalFromCentral]
  | .get => []

def giveUpEvents (kind : EntityKind) (operation : Operation) (request : Request) (admin : Token)
    (error : StoreError) (attempts : Nat) : List Event :=
  [.counted .primaryFailures, .logged (.gaveUp attempts error)] ++
    (centralRepair kind operation request admin).flatMap fun task =>
      [.counted .dispatched, .logged (.dispatching task), .dispatched task]

theorem giveUp_run (kind : EntityKind) (operation : Operation) (request : Request) (admin : Token)
    (error : StoreError) (attempts : Nat) (w : World σ) (s : σ) :
    (giveUp kind operation request admin error attempts).run w s =
      ⟨.error (.ofTerminal error), giveUpEvents kind operation request admin error attempts, s⟩ := by
  cases operation <;> rfl

theorem tasks_giveUpEvents (kind : EntityKind) (operation : Operation) (request : Request)
    (admin : Token) (error : StoreError) (attempts : Nat) :
    Event.tasks (giveUpEvents kind operation request admin error attempts) =
      centralRepair kind operation request admin := by
  cases operation <;> rfl

theorem counters_giveUpEvents (kind : EntityKind) (operation : Operation) (request : Request)
    (admin : Token) (error : StoreError) (attempts : Nat) (c : Counters) :
    Event.counters c (giveUpEvents kind operation request admin error attempts) =
      { c with
        primaryFailures := c.primaryFailures + 1
        dispatched := c.dispatched + (centralRepair kind operation request admin).length } := by
  cases operation <;> rfl

theorem filter_isCall_giveUpEvents (kind : EntityKind) (operation : Operation) (request : Request)
    (admin : Token) (error : StoreError) (attempts : Nat) :
    (giveUpEvents kind operation request admin error attempts).filter Event.isCall = [] := by
  cases operation <;> rfl

section Minted

variable {p : RetryPolicy} {kind : EntityKind} {operation : Operation} {request : Request}
  {call : StoreCall} {w : World σ} {s : σ} {admin : Token}

theorem executeCentral_run_ok {n : Nat} {doc : Document} (hmint : (w.mint s).1 = .ok admin)
    (hresult : ((p.retrying (Activity.call (.store .centralSide call admin))).run w
      (w.mint s).2).result = p.outcome n (.ok doc)) :
    let tried := (p.retrying (Activity.call (.store .centralSide call admin))).run w (w.mint s).2
    (executeCentral p kind operation request call).run w s =
      ⟨.ok doc, .minted (.ok admin) :: tried.events, tried.after⟩ := by
  intro tried
  rw [executeCentral, Activity.run_bind]
  simp only [Activity.run_mint, hmint, Activity.run_bind, hresult]
  simp [RetryPolicy.outcome, tried]

theorem executeCentral_run_error {n : Nat} {error : StoreError}
    (hmint : (w.mint s).1 = .ok admin)
    (hresult : ((p.retrying (Activity.call (.store .centralSide call admin))).run w
      (w.mint s).2).result = p.outcome n (.error error)) :
    let tried := (p.retrying (Activity.call (.store .centralSide call admin))).run w (w.mint s).2
    (executeCentral p kind operation request call).run w s =
      ⟨.error (.ofTerminal error),
        .minted (.ok admin) ::
          (tried.events ++ giveUpEvents kind operation request admin error n),
        tried.after⟩ := by
  intro tried
  rw [executeCentral, Activity.run_bind]
  simp only [Activity.run_mint, hmint, Activity.run_bind, hresult]
  cases ha : p.abortOn error <;> simp [RetryPolicy.outcome, ha, giveUp_run, tried]

/-- After a token was minted, one retried call is made, and a failure of it hands over the repair
and nothing else. -/
theorem executeCentral_minted (p : RetryPolicy) (kind : EntityKind) (operation : Operation)
    (request : Request) (call : StoreCall) (hmint : (w.mint s).1 = .ok admin) :
    let e := (executeCentral p kind operation request call).run w s
    let c := Call.store .centralSide call admin
    let reply := p.replyTo c w (w.mint s).2
    ∃ m, IsLeast {j | p.Stops (j + 1) (reply j)} m ∧
      e.events.filter Event.isCall =
        .minted (.ok admin) :: (List.range (m + 1)).map (fun j => .called c (reply j)) ∧
      match reply m with
      | .ok doc =>
        e.result = .ok doc ∧ Event.tasks e.events = [] ∧
          ∀ c, Event.counters c e.events = { c with retries := c.retries + m }
      | .error error =>
        e.result = .error (.ofTerminal error) ∧
          Event.tasks e.events = centralRepair kind operation request admin ∧
          ∀ c, Event.counters c e.events =
            { c with
              retries := c.retries + m
              primaryFailures := c.primaryFailures + 1
              dispatched := c.dispatched + (centralRepair kind operation request admin).length } := by
  intro e c reply
  obtain ⟨m, hm, hresult, hcalls, htasks, hcounters⟩ := p.retrying_call c w (w.mint s).2
  refine ⟨m, hm, ?_⟩
  cases hlast : p.replyTo c w (w.mint s).2 m with
  | ok doc =>
    rw [hlast] at hresult
    have he : e = _ := executeCentral_run_ok hmint hresult
    rw [he]
    refine ⟨congrArg _ hcalls, ?_⟩
    simp only [reply, hlast]
    exact ⟨trivial, htasks, hcounters⟩
  | error error =>
    rw [hlast] at hresult
    have he : e = _ := executeCentral_run_error hmint hresult
    rw [he]
    refine ⟨?_, ?_⟩
    · rw [List.filter_cons_of_pos rfl, List.filter_append, hcalls, filter_isCall_giveUpEvents,
        List.append_nil]
    · simp only [reply, hlast]
      refine ⟨trivial, ?_, fun c => ?_⟩
      · change Event.tasks (_ ++ _) = _
        rw [Event.tasks_append, htasks, tasks_giveUpEvents, List.nil_append]
      · change Event.counters c (_ ++ _) = _
        rw [Event.counters_append, hcounters, counters_giveUpEvents]

end Minted

theorem executeOn_none {p : RetryPolicy} {kind : EntityKind} {operation : Operation}
    {request : Request} (h : StoreCall.ofRequest kind operation request = none) (side : Side)
    (w : World σ) (s : σ) :
    (executeOn p kind operation request side).run w s = ⟨.error (.missingIdentifier kind), [], s⟩ := by
  rw [executeOn, h]
  rfl

theorem executeCentral_unminted {p : RetryPolicy} {kind : EntityKind} {operation : Operation}
    {request : Request} {call : StoreCall} {w : World σ} {s : σ} {error : TokenError}
    (hmint : (w.mint s).1 = .error error) :
    (executeCentral p kind operation request call).run w s =
      ⟨.error (.token error), [.minted (.error error), .logged (.mintFailed error)],
        (w.mint s).2⟩ := by
  rw [executeCentral, Activity.run_bind]
  simp [hmint]

/-- A failure hands over the repair of the write, or nothing if the write was never sent. -/
theorem executeOn_central_tasks {p : RetryPolicy} {kind : EntityKind} {operation : Operation}
    {request : Request} {w : World σ} {s : σ} {error : OnboardError}
    (h : ((executeOn p kind operation request .centralSide).run w s).result = .error error) :
    let tasks := Event.tasks ((executeOn p kind operation request .centralSide).run w s).events
    tasks = [] ∨ ∃ admin, tasks = centralRepair kind operation request admin := by
  intro tasks
  cases hcall : StoreCall.ofRequest kind operation request with
  | none =>
    left
    simp only [tasks, executeOn_none hcall]
    rfl
  | some call =>
    have he : executeOn p kind operation request .centralSide =
        (executeCentral p kind operation request call : Activity σ _) := by
      rw [executeOn, hcall]
    rw [he] at h
    simp only [tasks, he]
    cases hmint : (w.mint s).1 with
    | error e =>
      left
      rw [executeCentral_unminted hmint]
      rfl
    | ok admin =>
      obtain ⟨m, -, -, hend⟩ := executeCentral_minted p kind operation request call hmint
      cases hlast : p.replyTo (.store .centralSide call admin) w (w.mint s).2 m with
      | ok doc =>
        simp only [hlast] at hend
        exact nomatch hend.1.symm.trans h
      | error e =>
        simp only [hlast] at hend
        exact Or.inr ⟨admin, hend.2.1⟩

/-- The contract of a call to the central catalogue that carries out an operation. Replies are
counted from one: `reply n` is what attempt number `n` would hear, and the first that stops the
policy is the last one asked for. -/
def Episode.CarriesOut (e : Episode σ (Except OnboardError Document)) (p : RetryPolicy)
    (kind : EntityKind) (operation : Operation) (request : Request) (w : World σ) (s : σ)
    (call : StoreCall) : Prop :=
  match (w.mint s).1 with
  | .error error =>
    e.result = .error (.token error) ∧
      e.events.filter Event.isCall = [.minted (.error error)] ∧
      Event.tasks e.events = [] ∧ ∀ c, Event.counters c e.events = c
  | .ok admin =>
    let central := Call.store .centralSide call admin
    let reply := fun n => p.replyTo central w (w.mint s).2 (n - 1)
    ∃ n, IsLeast {j | 1 ≤ j ∧ p.Stops j (reply j)} n ∧
      e.events.filter Event.isCall =
        .minted (.ok admin) :: (List.range' 1 n).map (fun j => .called central (reply j)) ∧
      match reply n with
      | .ok doc =>
        e.result = .ok doc ∧ Event.tasks e.events = [] ∧
          ∀ c, Event.counters c e.events = { c with retries := c.retries + (n - 1) }
      | .error error =>
        e.result = .error (match error with
          | .status code message => .remote code message
          | other => .internal other.message) ∧
        Event.tasks e.events = centralRepair kind operation request admin ∧
        ∀ c, Event.counters c e.events =
          { c with
            retries := c.retries + (n - 1)
            primaryFailures := c.primaryFailures + 1
            dispatched := c.dispatched + (centralRepair kind operation request admin).length }

theorem executeCentral_carriesOut (p : RetryPolicy) (kind : EntityKind) (operation : Operation)
    (request : Request) (call : StoreCall) (w : World σ) (s : σ) :
    ((executeCentral p kind operation request call).run w s).CarriesOut p kind operation request w s
      call := by
  unfold Episode.CarriesOut
  cases hmint : (w.mint s).1 with
  | error error =>
    rw [executeCentral_unminted hmint]
    exact ⟨rfl, rfl, rfl, fun c => rfl⟩
  | ok admin =>
    obtain ⟨m, hm, hcalls, hend⟩ := executeCentral_minted p kind operation request call hmint
    dsimp only
    refine ⟨m + 1, RetryPolicy.isLeast_from_one hm, ?_, ?_⟩
    · rw [hcalls]
      exact congrArg _ (RetryPolicy.map_from_one _ _).symm
    · simp only [Nat.add_sub_cancel]
      cases hlast : p.replyTo (.store .centralSide call admin) w (w.mint s).2 m with
      | ok doc =>
        rw [hlast] at hend
        exact hend
      | error error =>
        rw [hlast] at hend
        refine ⟨hend.1.trans ?_, hend.2⟩
        cases error <;> rfl

/-- The call of a request, operation by operation. -/
theorem StoreCall.ofRequest_cases {kind : EntityKind} {operation : Operation} {request : Request}
    {P : StoreCall → Prop} {Q : Prop} :
    (∀ call, StoreCall.ofRequest kind operation request = some call → P call) →
    (StoreCall.ofRequest kind operation request = none → Q) →
    match operation, request.identifier kind with
    | .create, _ => P (.create kind request.body)
    | .update, _ => P (.update kind request.body)
    | .delete, some id => P (.delete kind id request.path)
    | .get, some id => P (.get kind id)
    | _, none => Q := by
  intro hsome hnone
  cases operation with
  | create => exact hsome _ rfl
  | update => exact hsome _ rfl
  | delete =>
    cases hid : request.identifier kind with
    | none => exact hnone (by rw [StoreCall.ofRequest, hid]; rfl)
    | some id => exact hsome _ (by rw [StoreCall.ofRequest, hid]; rfl)
  | get =>
    cases hid : request.identifier kind with
    | none => exact hnone (by rw [StoreCall.ofRequest, hid]; rfl)
    | some id => exact hsome _ (by rw [StoreCall.ofRequest, hid]; rfl)

/-- The contract of the central catalogue. A document is written as it is, reading and deleting
need an identifier, and without one nothing happens. -/
theorem executeOn_central (p : RetryPolicy) (kind : EntityKind) (operation : Operation)
    (request : Request) (w : World σ) (s : σ) :
    let e := (executeOn p kind operation request .centralSide).run w s
    let carriesOut := e.CarriesOut p kind operation request w s
    match operation, request.identifier kind with
    | .create, _ => carriesOut (.create kind request.body)
    | .update, _ => carriesOut (.update kind request.body)
    | .delete, some id => carriesOut (.delete kind id request.path)
    | .get, some id => carriesOut (.get kind id)
    | _, none => e.result = .error (.missingIdentifier kind) ∧ e.events = [] := by
  intro e carriesOut
  refine StoreCall.ofRequest_cases (fun call hcall => ?_) fun hnone => ?_
  · have he : e = (executeCentral p kind operation request call).run w s := by
      simp only [e, executeOn, hcall]
    simp only [carriesOut, he]
    exact executeCentral_carriesOut p kind operation request call w s
  · have he : e = _ := executeOn_none hnone .centralSide w s
    rw [he]
    exact ⟨rfl, rfl⟩

end TwinCatalogue
