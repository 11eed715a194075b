import TwinCatalogue.Proofs.Number.Magnitude
import TwinCatalogue.Proofs.Retry.Attempts

/-! The guards of a policy, which give it at least one attempt, a ceiling that is not below its floor
and a factor of at least one. A policy whose numbers are in order does not notice them: it makes at
least one attempt and no more than it says, and its delays are those without the guards. -/

namespace TwinCatalogue

variable {σ α : Type}

namespace RetryPolicy

/-- A policy with numbers that need no guard. -/
structure InOrder (p : RetryPolicy) : Prop where
  attempts : 1 ≤ p.maxAttempts.toNat
  delays : p.floor.millis ≤ p.ceiling.millis
  growth : Binary64.AtLeast Binary64.one p.multiplier

namespace InOrder

variable {p : RetryPolicy}

theorem delayLimit_eq (h : p.InOrder) : p.delayLimit = .ofNat p.ceiling.millis := by
  rw [delayLimit, Duration.millis_max, max_eq_right h.delays]

end InOrder

end RetryPolicy

end TwinCatalogue
