import TwinCatalogue.Call
import TwinCatalogue.Counters
import TwinCatalogue.Log

/-!
Activities of the engine. An activity talks to the world outside, which it knows only by its
answers, and leaves behind a list of events in the order in which they happened. Calls, log
records, counters and times are all read off that one list.
-/

namespace TwinCatalogue

/-- The world outside the engine, with a state that answers may depend on and change: how it
answers a call, how it answers a request for an admin token, and 64 random bits. -/
structure World (σ : Type) where
  answer : Call → σ → Reply × σ
  mint : σ → Except TokenError Token × σ
  draw : σ → UInt64 × σ

inductive Event where
  | called (call : Call) (reply : Reply)
  | minted (reply : Except TokenError Token)
  | logged (entry : LogEntry)
  | counted (counter : Counter)
  | waited (milliseconds : Nat)
  | dispatched (task : RepairTask)

/-- What an activity did: its result, the events on the way, and the state of the world that it
left. -/
structure Episode (σ α : Type) where
  result : α
  events : List Event
  after : σ

def Activity (σ α : Type) : Type := World σ → σ → Episode σ α

namespace Activity

variable {σ α β : Type}

def run (x : Activity σ α) (w : World σ) (s : σ) : Episode σ α := x w s

protected def pure (a : α) : Activity σ α := fun _ s => ⟨a, [], s⟩

protected def bind (x : Activity σ α) (f : α → Activity σ β) : Activity σ β := fun w s =>
  let first := x w s
  let second := f first.result w first.after
  ⟨second.result, first.events ++ second.events, second.after⟩

instance : Monad (Activity σ) where
  pure := Activity.pure
  bind := Activity.bind

def call (c : Call) : Activity σ Reply := fun w s =>
  let (reply, s') := w.answer c s
  ⟨reply, [.called c reply], s'⟩

def mint : Activity σ (Except TokenError Token) := fun w s =>
  let (reply, s') := w.mint s
  ⟨reply, [.minted reply], s'⟩

def draw : Activity σ UInt64 := fun w s =>
  let (bits, s') := w.draw s
  ⟨bits, [], s'⟩

def emit (e : Event) : Activity σ Unit := fun _ s => ⟨(), [e], s⟩

def log (entry : LogEntry) : Activity σ Unit := emit (.logged entry)

def count (counter : Counter) : Activity σ Unit := emit (.counted counter)

def wait (milliseconds : Nat) : Activity σ Unit := emit (.waited milliseconds)

/-- Hands a repair over: it is counted and logged now, and run when the call has returned. -/
def dispatch (task : RepairTask) : Activity σ Unit := do
  count .dispatched
  log (.dispatching task)
  emit (.dispatched task)

@[simp] theorem run_pure (a : α) (w : World σ) (s : σ) :
    (pure a : Activity σ α).run w s = ⟨a, [], s⟩ := rfl

@[simp] theorem run_bind (x : Activity σ α) (f : α → Activity σ β) (w : World σ) (s : σ) :
    (x >>= f).run w s =
      ⟨((f (x.run w s).result).run w (x.run w s).after).result,
        (x.run w s).events ++ ((f (x.run w s).result).run w (x.run w s).after).events,
        ((f (x.run w s).result).run w (x.run w s).after).after⟩ := rfl

@[simp] theorem run_emit (e : Event) (w : World σ) (s : σ) :
    (emit e : Activity σ Unit).run w s = ⟨(), [e], s⟩ := rfl

@[simp] theorem run_map (f : α → β) (x : Activity σ α) (w : World σ) (s : σ) :
    (f <$> x).run w s = ⟨f (x.run w s).result, (x.run w s).events, (x.run w s).after⟩ := by
  show Episode.mk _ ((x.run w s).events ++ []) _ = _
  rw [List.append_nil]
  rfl

@[simp] theorem run_call (c : Call) (w : World σ) (s : σ) :
    (call c).run w s = ⟨(w.answer c s).1, [.called c (w.answer c s).1], (w.answer c s).2⟩ := rfl

@[simp] theorem run_mint (w : World σ) (s : σ) :
    mint.run w s = ⟨(w.mint s).1, [.minted (w.mint s).1], (w.mint s).2⟩ := rfl

@[simp] theorem run_log (entry : LogEntry) (w : World σ) (s : σ) :
    (log entry).run w s = ⟨(), [.logged entry], s⟩ := rfl

@[simp] theorem run_count (counter : Counter) (w : World σ) (s : σ) :
    (count counter).run w s = ⟨(), [.counted counter], s⟩ := rfl

instance : LawfulMonad (Activity σ) :=
  LawfulMonad.mk' (Activity σ)
    (fun x => by
      funext w s
      show Episode.mk _ ((x w s).events ++ []) _ = _
      rw [List.append_nil]
      rfl)
    (fun _ _ => rfl)
    (fun x f g => by
      funext w s
      show Episode.mk _ (((x w s).events ++ _) ++ _) _ = Episode.mk _ ((x w s).events ++ (_ ++ _)) _
      rw [List.append_assoc]
      rfl)

end Activity

namespace Event

def logs (events : List Event) : List LogEntry :=
  events.filterMap fun
    | logged entry => some entry
    | _ => none

def tasks (events : List Event) : List RepairTask :=
  events.filterMap fun
    | dispatched task => some task
    | _ => none

def counters (start : Counters) (events : List Event) : Counters :=
  events.foldl (fun c e =>
    match e with
    | counted counter => c.record counter
    | _ => c) start

def duration : List Event → Nat
  | [] => 0
  | waited ms :: rest => ms + duration rest
  | _ :: rest => duration rest

def timed (now : Nat) : List Event → List (Nat × Event)
  | [] => []
  | waited ms :: rest => (now, waited ms) :: timed (now + ms) rest
  | e :: rest => (now, e) :: timed now rest

def isCall : Event → Bool
  | called _ _ => true
  | minted _ => true
  | _ => false

def timedCalls (now : Nat) (events : List Event) : List (Nat × Event) :=
  (timed now events).filter (·.2.isCall)

def timedCounters (now : Nat) (events : List Event) : List (Nat × Counter) :=
  (timed now events).filterMap fun
    | (time, counted counter) => some (time, counter)
    | _ => none

@[simp] theorem logs_append (first second : List Event) :
    logs (first ++ second) = logs first ++ logs second := List.filterMap_append

@[simp] theorem tasks_append (first second : List Event) :
    tasks (first ++ second) = tasks first ++ tasks second := List.filterMap_append

@[simp] theorem counters_append (start : Counters) (first second : List Event) :
    counters start (first ++ second) = counters (counters start first) second :=
  List.foldl_append

@[simp] theorem duration_append (first second : List Event) :
    duration (first ++ second) = duration first + duration second := by
  induction first with
  | nil => simp [duration]
  | cons e rest ih => cases e <;> simp [duration, ih, Nat.add_assoc]

@[simp] theorem timed_append (now : Nat) (first second : List Event) :
    timed now (first ++ second) = timed now first ++ timed (now + duration first) second := by
  induction first generalizing now with
  | nil => simp [timed, duration]
  | cons e rest ih => cases e <;> simp [timed, duration, ih, Nat.add_assoc]

@[simp] theorem timedCalls_append (now : Nat) (first second : List Event) :
    timedCalls now (first ++ second) =
      timedCalls now first ++ timedCalls (now + duration first) second := by
  simp [timedCalls]

end Event

end TwinCatalogue
