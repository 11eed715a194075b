import TwinCatalogue.Failure
import TwinCatalogue.Number.Binary64

/-!
Retry policies: how often a call is tried, after which errors, and how long to wait in between.
The delay grows from a floor by a factor for each retry and never passes a ceiling.
-/

namespace TwinCatalogue

/-- A span of time, exact to the nanosecond. Its whole seconds have 64 bits. -/
structure Duration where
  nanoseconds : Nat
  bounded : nanoseconds < UInt64.size * 1000000000
  deriving DecidableEq, Repr

namespace Duration

def ofMillis (milliseconds : UInt64) : Duration where
  nanoseconds := milliseconds.toNat * 1000000
  bounded :=
    Nat.mul_lt_mul_of_lt_of_le milliseconds.toNat_lt_size (by decide) (by decide)

/-- The whole milliseconds; what is left of them is dropped. -/
def millis (d : Duration) : Nat := d.nanoseconds / 1000000

instance : Max Duration := ⟨fun d e => if d.nanoseconds ≤ e.nanoseconds then e else d⟩

theorem nanoseconds_max (d e : Duration) :
    (max d e).nanoseconds = max d.nanoseconds e.nanoseconds := by
  change (if d.nanoseconds ≤ e.nanoseconds then e else d).nanoseconds = _
  split <;> omega

theorem millis_max (d e : Duration) : (max d e).millis = max d.millis e.millis := by
  rw [millis, millis, millis, nanoseconds_max]
  omega

end Duration

/-- How a call is retried. -/
structure RetryPolicy where
  maxAttempts : UInt32
  floor : Duration
  ceiling : Duration
  multiplier : Binary64
  jitter : Bool
  retryOn : StoreError → Bool
  abortOn : StoreError → Bool

namespace RetryPolicy

def standard : RetryPolicy :=
  { maxAttempts := 5
    floor := .ofMillis 1000
    ceiling := .ofMillis 10000
    multiplier := .ofNat 2
    jitter := true
    retryOn := StoreError.recoverable
    abortOn := StoreError.unrecoverable }

def attemptLimit (p : RetryPolicy) : Nat := max 1 p.maxAttempts.toNat

def delayLimit (p : RetryPolicy) : Binary64 :=
  .ofNat (max p.floor p.ceiling).millis

def factor (p : RetryPolicy) : Binary64 := p.multiplier.max (.ofNat 1)

def exponentLimit : Nat := Nat.pow 2 31 - 1

/-- The delay before retry number `retry`, counted from zero, without any random part. It is in
milliseconds, of which the floor gives its whole ones. -/
def steady (p : RetryPolicy) (retry : Nat) : Binary64 :=
  ((Binary64.ofNat p.floor.millis).mul (p.factor.pow (min retry exponentLimit))).min p.delayLimit

/-- A number in the unit interval, without 1, made of the upper 52 of 64 random bits. -/
def unitInterval (bits : UInt64) : Binary64 :=
  (Binary64.ofNat (bits.toNat / Nat.pow 2 12)).div (.ofNat (Nat.pow 2 52))

def spread (p : RetryPolicy) (delay : Binary64) (bits : UInt64) : Binary64 :=
  (delay.add ((unitInterval bits).mul (delay.div (.ofNat 2)))).min p.delayLimit

/-- Whether the delay before a retry has a random part: only one of two milliseconds or more. -/
def jitters (p : RetryPolicy) (retry : Nat) : Bool :=
  p.jitter && (Binary64.ofNat 2).atMost (p.steady retry)

/-- The delay before a retry in whole milliseconds, given the random bits that it may use. -/
def backoffWith (p : RetryPolicy) (retry : Nat) (bits : UInt64) : Nat :=
  (if p.jitters retry then p.spread (p.steady retry) bits else p.steady retry).toUInt64.toNat

def backoff (p : RetryPolicy) (retry : Nat) : Nat := (p.steady retry).toUInt64.toNat

theorem backoffWith_of_not_jitter {p : RetryPolicy} (h : p.jitter = false) (retry : Nat)
    (bits : UInt64) : p.backoffWith retry bits = p.backoff retry := by
  simp [backoffWith, backoff, jitters, h]

end RetryPolicy

end TwinCatalogue
