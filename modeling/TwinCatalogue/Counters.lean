/-!
Counters of the repair work. What is settled and what is still under way follows from them.
-/

namespace TwinCatalogue

inductive Counter where
  | dispatched
  | repaired
  | irreparable
  | retries
  | primaryFailures
  deriving DecidableEq, Repr

structure Counters where
  dispatched : Nat
  repaired : Nat
  irreparable : Nat
  retries : Nat
  primaryFailures : Nat
  deriving DecidableEq, Repr

namespace Counters

def zero : Counters := ⟨0, 0, 0, 0, 0⟩

def record (c : Counters) : Counter → Counters
  | .dispatched => { c with dispatched := c.dispatched + 1 }
  | .repaired => { c with repaired := c.repaired + 1 }
  | .irreparable => { c with irreparable := c.irreparable + 1 }
  | .retries => { c with retries := c.retries + 1 }
  | .primaryFailures => { c with primaryFailures := c.primaryFailures + 1 }

def settled (c : Counters) : Nat := c.repaired + c.irreparable

def inFlight (c : Counters) : Nat := c.dispatched - c.settled

def metric (name help : String) (value : Nat) : String :=
  "# HELP " ++ name ++ " " ++ help ++ "\n# TYPE " ++ name ++ " counter\n" ++ name ++ " " ++
    toString value ++ "\n"

def prometheus (c : Counters) : String :=
  String.join
    [metric "onboard_compensations_dispatched_total" "Compensations dispatched" c.dispatched,
      metric "onboard_compensations_repaired_total" "Compensations that healed a divergence"
        c.repaired,
      metric "onboard_compensations_irreparable_total"
        "Standing inconsistencies left for an operator" c.irreparable,
      metric "onboard_retries_total" "Retries performed" c.retries,
      metric "onboard_primary_failures_total" "Caller-facing failures after retries"
        c.primaryFailures]

def pollInterval : Nat := 10

/-- Looks at the counters again and again, until nothing is in flight or the time is up. `counters`
says what they are so many milliseconds after the first look. The result tells whether nothing was
left in flight, and when that was found out. -/
def poll (timeout : Nat) (counters : Nat → Counters) (elapsed : Nat) : Bool × Nat :=
  if (counters elapsed).inFlight = 0 then (true, elapsed)
  else if timeout ≤ elapsed then (false, elapsed)
  else poll timeout counters (elapsed + pollInterval)
termination_by timeout - elapsed
decreasing_by simp only [pollInterval]; omega

end Counters

end TwinCatalogue
