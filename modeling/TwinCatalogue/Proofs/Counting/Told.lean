import TwinCatalogue.Proofs.Activity.Order
import TwinCatalogue.Proofs.Events
import TwinCatalogue.Proofs.Repair.Course

/-! What the log tells of the counters and of the time. Counting, logging and waiting are steps of
their own, but they come in groups that account for one another, and no call is made within such a
group. -/

namespace TwinCatalogue

/-- The counters that are raised along with a record. -/
def LogEntry.accounts : LogEntry → List Counter
  | retrying _ _ _ _ => [.retries]
  | dispatching task =>
    if task.action = .recreateAdapter then [.primaryFailures, .dispatched] else [.dispatched]
  | reconciled _ => [.repaired]
  | inconsistent _ _ => [.irreparable]
  | gaveUp _ _ => [.primaryFailures]
  | registrationFailed _ _ _ => [.primaryFailures]
  | deregistrationFailed _ _ _ => [.primaryFailures]
  | _ => []

namespace Event

def accounted (counter : Counter) (events : List Event) : Nat :=
  (logs events).countP fun entry => decide (counter ∈ entry.accounts)

@[simp] theorem accounted_append (counter : Counter) (first second : List Event) :
    accounted counter (first ++ second) = accounted counter first + accounted counter second := by
  simp [accounted]

/-- A call is made when all delays on record have passed, and no others. -/
def OnTime (before : List Event) (e : Event) : Prop :=
  e.isCall = true → duration before = (retryDelays before).sum

/-- Events of which the log tells how often each counter was raised and when each call was made. -/
structure Told (events : List Event) : Prop where
  counted : ∀ counter, tally counter events = accounted counter events
  elapsed : duration events = (retryDelays events).sum
  onTime : Guarded OnTime events

theorem told_nil : Told [] :=
  ⟨fun _ => rfl, rfl, guarded_of_forall fun _ he => absurd he List.not_mem_nil⟩

theorem Told.append {first second : List Event} (h : Told first) (h' : Told second) :
    Told (first ++ second) where
  counted counter := by rw [tally_append, accounted_append, h.counted, h'.counted]
  elapsed := by rw [duration_append, retryDelays_append, List.sum_append, h.elapsed, h'.elapsed]
  onTime := by
    refine h.onTime.append (h'.onTime.mono fun before e _ hp hcall => ?_)
    rw [duration_append, retryDelays_append, List.sum_append, h.elapsed, hp hcall]

theorem told_of_not_isCall {events : List Event} (hcall : ∀ e ∈ events, e.isCall = false)
    (hcounted : ∀ counter, tally counter events = accounted counter events)
    (helapsed : duration events = (retryDelays events).sum) : Told events where
  counted := hcounted
  elapsed := helapsed
  onTime := guarded_of_forall fun e he _ h => absurd ((hcall e he).symm.trans h) Bool.false_ne_true

theorem told_of_isCall {e : Event} (h : e.isCall = true) : Told [e] := by
  have honTime : Guarded OnTime [e] := by
    intro before e' after hsplit _
    rcases List.append_eq_singleton_iff.mp hsplit.symm with ⟨rfl, -⟩ | ⟨-, hnil⟩
    · rfl
    · exact absurd hnil (List.cons_ne_nil _ _)
  cases e with
  | called call reply => exact ⟨fun counter => rfl, rfl, honTime⟩
  | minted reply => exact ⟨fun counter => rfl, rfl, honTime⟩
  | _ => exact nomatch h

theorem told_log {entry : LogEntry} (h : entry.accounts = []) : Told [.logged entry] := by
  refine told_of_not_isCall (by simp [isCall]) (fun counter => ?_) ?_
  · simp [tally, raises, accounted, logs, h]
  · cases entry with
    | retrying => exact absurd h (List.cons_ne_nil _ _)
    | _ => rfl

theorem told_pause (p : RetryPolicy) (n milliseconds : Nat) (error : StoreError) :
    Told [.logged (.retrying n p.attemptLimit milliseconds error), .counted .retries,
      .waited milliseconds] := by
  refine told_of_not_isCall (by simp [isCall]) (fun counter => ?_) ?_
  · cases counter <;> rfl
  · simp [duration, retryDelays, logs, LogEntry.retryDelay?]

theorem told_pair {entry : LogEntry} {counter : Counter} (h : entry.accounts = [counter])
    (hdelay : entry.retryDelay? = none) : Told [.counted counter, .logged entry] := by
  refine told_of_not_isCall (by simp [isCall]) (fun c => ?_) ?_
  · by_cases hc : c = counter
    · simp [tally, raises, accounted, logs, h, hc]
    · simp [tally, raises, accounted, logs, h, hc, Ne.symm hc]
  · simp [duration, retryDelays, logs, hdelay]

theorem told_dispatch {task : RepairTask} (h : task.action ≠ .recreateAdapter) :
    Told [.counted .dispatched, .logged (.dispatching task), .dispatched task] := by
  refine told_of_not_isCall (by simp [isCall]) (fun counter => ?_) rfl
  cases counter <;> simp [tally, raises, accounted, logs, LogEntry.accounts, h]

/-- No record of its own goes with the failure behind which an adapter is registered again. -/
theorem told_restoration {task : RepairTask} (h : task.action = .recreateAdapter) :
    Told [.counted .primaryFailures, .counted .dispatched, .logged (.dispatching task),
      .dispatched task] := by
  refine told_of_not_isCall (by simp [isCall]) (fun counter => ?_) rfl
  cases counter <;> simp [tally, raises, accounted, logs, LogEntry.accounts, h]

theorem told_verdict (task : RepairTask) (result : Except OnboardError Unit) :
    Told (task.verdict result) := by
  rcases result with error | _
  · refine told_of_not_isCall (by simp [RepairTask.verdict, isCall]) (fun counter => ?_) rfl
    cases counter <;> rfl
  · refine told_of_not_isCall (by simp [RepairTask.verdict, isCall]) (fun counter => ?_) rfl
    cases counter <;> rfl

end Event

namespace Activity

variable {σ α β : Type}

def Tells (x : Activity σ α) : Prop := ∀ w s, Event.Told (x.run w s).events

theorem tells_pure (a : α) : (pure a : Activity σ α).Tells := fun _ _ => Event.told_nil

theorem Tells.bind {x : Activity σ α} {f : α → Activity σ β} (hx : x.Tells)
    (hf : ∀ a, (f a).Tells) : (x >>= f).Tells :=
  fun w s => (hx w s).append (hf _ w _)

theorem tells_call (call : Call) : (Activity.call call : Activity σ Reply).Tells :=
  fun _ _ => Event.told_of_isCall rfl

theorem tells_mint : (mint : Activity σ _).Tells := fun _ _ => Event.told_of_isCall rfl

theorem tells_log {entry : LogEntry} (h : entry.accounts = []) :
    (log entry : Activity σ Unit).Tells :=
  fun _ _ => Event.told_log h

theorem tells_failure {entry : LogEntry} {f : Activity σ α}
    (h : entry.accounts = [.primaryFailures]) (hdelay : entry.retryDelay? = none) (hf : f.Tells) :
    (count .primaryFailures >>= fun _ => log entry >>= fun _ => f : Activity σ α).Tells :=
  fun w s => (Event.told_pair h hdelay).append (hf w s)

theorem tells_dispatch {task : RepairTask} (h : task.action ≠ .recreateAdapter) :
    (dispatch task : Activity σ Unit).Tells :=
  fun _ _ => Event.told_dispatch h

variable {p : RetryPolicy}

theorem tells_delay (retry : Nat) : (p.delay retry : Activity σ Nat).Tells := by
  intro w s
  rw [p.delay_events]
  exact Event.told_nil

theorem tells_pauseFor (n milliseconds : Nat) (error : StoreError) :
    (p.pauseFor true n error milliseconds : Activity σ Unit).Tells := by
  intro w s
  rw [p.pauseFor_run (α := Document)]
  exact Event.told_pause p n milliseconds error

/-- Follows the recursion of the attempts. -/
theorem tells_attempts {operation : Activity σ (Except StoreError α)} (h : operation.Tells)
    (left n : Nat) : (p.attempts true operation left n).Tells := by
  induction left generalizing n with
  | zero =>
    rw [RetryPolicy.attempts]
    refine h.bind fun reply => ?_
    cases reply with
    | ok value => exact tells_pure _
    | error error =>
      dsimp only
      split
      · exact (tells_log rfl).bind fun _ => tells_pure _
      · exact tells_pure _
  | succ left ih =>
    rw [RetryPolicy.attempts]
    refine h.bind fun reply => ?_
    cases reply with
    | ok value => exact tells_pure _
    | error error =>
      dsimp only
      split
      · exact (tells_log rfl).bind fun _ => tells_pure _
      · split
        · exact (tells_delay _).bind fun milliseconds =>
            (tells_pauseFor n milliseconds error).bind fun _ => ih (n + 1)
        · exact tells_pure _

theorem tells_retrying {operation : Activity σ (Except StoreError α)} (h : operation.Tells) :
    (p.retrying operation).Tells :=
  tells_attempts h _ _

end Activity

end TwinCatalogue
