import TwinCatalogue.Counters

/-!
Counters on a clock. What happens is counted at once or scheduled for later; waiting moves the
clock forward until nothing is in flight or the time is up. No wait is begun whose end the clock
cannot show.
-/

namespace TwinCatalogue

/-- Counters with a clock in milliseconds and the occurrences that are still to come, each with
the time at which it is due. -/
structure Timeline where
  now : Nat
  recorded : Counters
  scheduled : List (Nat × Counter)
  deriving DecidableEq, Repr

namespace Timeline

def start : Timeline := ⟨0, .zero, []⟩

def countersAt (t : Timeline) (time : Nat) : Counters :=
  ((t.scheduled.filter (·.1 < time)).map (·.2)).foldl Counters.record t.recorded

def counters (t : Timeline) : Counters := t.countersAt t.now

def record (t : Timeline) (counter : Counter) : Timeline :=
  { t with recorded := t.recorded.record counter }

def schedule (t : Timeline) (delay : Nat) (counter : Counter) : Timeline :=
  { t with scheduled := t.scheduled ++ [(t.now + delay, counter)] }

/-- The first time that the clock cannot show. Its seconds are a signed number of 64 bits. -/
def clockLimit : Nat := Nat.pow 2 63 * 1000

/-- Waits until nothing is in flight, for a span at the most. When the wait has to end is worked out
before the first look, and if the clock cannot show that time there is no wait, and no result. -/
def waitIdle (t : Timeline) (timeout : Nat) : Option (Bool × Timeline) :=
  if clockLimit ≤ t.now + timeout then none
  else
    let (idle, elapsed) := Counters.poll timeout (fun after => t.countersAt (t.now + after)) 0
    some (idle, { t with now := t.now + elapsed })

theorem waitIdle_eq_none_iff {t : Timeline} {timeout : Nat} :
    t.waitIdle timeout = none ↔ clockLimit ≤ t.now + timeout := by
  rw [waitIdle]
  split <;> simp [*]

end Timeline

end TwinCatalogue
