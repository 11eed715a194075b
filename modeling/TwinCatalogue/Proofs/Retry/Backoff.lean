import TwinCatalogue.Proofs.Number.Power
import TwinCatalogue.Retry.Policy

/-! How long a policy waits, in exact numbers. The delay never leaves the interval from the floor to
the ceiling, whatever the factor is, except for the part of a millisecond that a floor can have and
a delay cannot. With a whole factor it is the floor times a power of it, up to the ceiling: no
rounding shows, but a power that is not finite makes a floor of zero wait. -/

namespace TwinCatalogue.RetryPolicy

open Binary64 (AtLeast)

variable {p : RetryPolicy} {m n retry : Nat}

def longestDelay (p : RetryPolicy) : Nat := max p.floor.millis p.ceiling.millis

/-- The power of the factor before a retry is too large to be finite. -/
def Overflows (p : RetryPolicy) (retry : Nat) : Prop :=
  p.factor.pow (min retry exponentLimit) = .infinite false

theorem delayLimit_eq (h : p.longestDelay < 2 ^ 53) :
    p.delayLimit = .finite false (p.longestDelay * Binary64.one) := by
  have hlimit : p.delayLimit = .ofNat p.longestDelay := by
    rw [delayLimit, Duration.millis_max, longestDelay]
  exact hlimit.trans (Binary64.ofNat_eq h)

theorem backoff_eq (hn : n < 2 ^ 53) (h : p.steady retry = .finite false (n * Binary64.one)) :
    p.backoff retry = n := by
  have hdiv : n * Binary64.one / Binary64.one = n := Nat.mul_div_cancel n Binary64.one_pos
  rw [backoff, h, Binary64.toNat_toUInt64, hdiv]
  rw [hdiv]
  exact hn.trans (by decide)

theorem atLeast_factor_pow (p : RetryPolicy) (e : Nat) :
    AtLeast Binary64.one (p.factor.pow e) :=
  (Binary64.atLeast_max_one p.multiplier).pow e

theorem steady_bounds (h : p.longestDelay < 2 ^ 53) (retry : Nat) :
    ∃ u, p.steady retry = .finite false u ∧ p.floor.millis * Binary64.one ≤ u ∧
      u ≤ p.longestDelay * Binary64.one := by
  have hfloor : p.floor.millis ≤ p.longestDelay := le_max_left _ _
  have hpow := p.atLeast_factor_pow (min retry exponentLimit)
  rw [steady, delayLimit_eq h, Binary64.ofNat_eq (by omega)]
  generalize p.factor.pow _ = power at hpow
  by_cases hz : p.floor.millis = 0
  · -- nothing times an infinite power is no number, and the limit takes its place
    rw [hz, Nat.zero_mul]
    cases hpow with
    | infinite => exact ⟨_, rfl, Nat.zero_le _, le_rfl⟩
    | @finite u hu =>
      have hzero : AtLeast 0 (Binary64.ofUnits false (0 * u) Binary64.one) := by
        refine Binary64.atLeast_ofUnits Binary64.one_pos ?_ (by simp)
        exact Binary64.representable_mul_pow (m := 0) (by decide) 0
      rw [Binary64.mul_finite]
      exact hzero.exists_min (Nat.zero_le _)
  · have hone := Binary64.one_pos
    have hmul := (AtLeast.finite le_rfl).mul hpow (Nat.mul_pos (by omega) hone) hone
      (Binary64.representable_mul_one (n := p.floor.millis) (by omega)) le_rfl
    exact hmul.exists_min (Nat.mul_le_mul_right _ hfloor)

theorem backoff_bounds (h : p.longestDelay < 2 ^ 53) (retry : Nat) :
    p.floor.millis ≤ p.backoff retry ∧ p.backoff retry ≤ p.longestDelay := by
  obtain ⟨u, hu, hlow, hhigh⟩ := steady_bounds h retry
  have hone := Binary64.one_pos
  have hdiv : u / Binary64.one ≤ p.longestDelay := Nat.div_le_of_le_mul (by rwa [Nat.mul_comm])
  rw [backoff, hu, Binary64.toNat_toUInt64 (hdiv.trans_lt (h.trans (by decide)))]
  exact ⟨(Nat.le_div_iff_mul_le hone).mpr hlow, hdiv⟩

/-- The power of the factor before the first retry is one. -/
theorem backoff_zero (h : p.longestDelay < 2 ^ 53) : p.backoff 0 = p.floor.millis := by
  have hle : p.floor.millis ≤ p.longestDelay := le_max_left _ _
  have hunits : p.floor.millis * Binary64.one ≤ p.longestDelay * Binary64.one :=
    Nat.mul_le_mul_right _ hle
  refine backoff_eq (hle.trans_lt h) ?_
  rw [steady, Nat.zero_min, Binary64.pow_zero, delayLimit_eq h,
    Binary64.mul_ofNat_one (hle.trans_lt h), Binary64.min_finite, inf_eq_left.mpr hunits]

/-- In nanoseconds, a delay is between the floor and the ceiling, whatever the factor, but for a
floor that is not in whole milliseconds. Of this only the whole ones are sure to be waited, and they
are all that is waited before the first retry. -/
theorem backoffWith_bounds {p : RetryPolicy} (hjitter : p.jitter = false)
    (hfloor : p.floor.nanoseconds < 2 ^ 53 * 1000000)
    (hceiling : p.ceiling.nanoseconds < 2 ^ 53 * 1000000) (retry : UInt32) (bits : UInt64) :
    let floor := p.floor.nanoseconds
    let delay := p.backoffWith retry.toNat bits * 1000000
    delay ≤ max floor p.ceiling.nanoseconds ∧ floor < delay + 1000000 ∧
      (delay < floor ↔ ¬ 1000000 ∣ floor ∧ delay = floor - floor % 1000000) ∧
      (retry = 0 → delay = floor - floor % 1000000) := by
  intro floor delay
  have hlongest : p.longestDelay < 2 ^ 53 := by
    rw [longestDelay, Duration.millis, Duration.millis]
    omega
  have hdelay : delay = p.backoff retry.toNat * 1000000 := by
    simp only [delay, backoffWith_of_not_jitter hjitter]
  obtain ⟨hlow, hhigh⟩ := backoff_bounds hlongest retry.toNat
  have hfirst : retry = 0 → p.backoff retry.toNat = p.floor.millis := by
    rintro rfl
    exact backoff_zero hlongest
  simp only [longestDelay, Duration.millis] at hlow hhigh hfirst
  generalize p.backoff retry.toNat = waited at hdelay hlow hhigh hfirst
  clear_value delay
  refine ⟨by omega, by omega, by omega, fun hretry => ?_⟩
  have hwaited := hfirst hretry
  omega

theorem backoffWith_bounds_infinite :
    let p : RetryPolicy :=
      { standard with
        floor := ⟨2500000, by decide⟩, multiplier := .infinite false, jitter := false }
    p.jitter = false ∧ p.floor.nanoseconds < 2 ^ 53 * 1000000 ∧
      p.ceiling.nanoseconds < 2 ^ 53 * 1000000 ∧ p.backoffWith 0 0 * 1000000 = 2000000 ∧
      2 ≤ p.backoffWith 4294967295 0 ∧ p.backoffWith 4294967295 0 ≤ 10000 := by
  intro p
  have hfloor : p.floor.nanoseconds < 2 ^ 53 * 1000000 := by decide
  have hceiling : p.ceiling.nanoseconds < 2 ^ 53 * 1000000 := by decide
  have hpart : p.floor.nanoseconds = 2500000 := rfl
  have hlongest : p.ceiling.nanoseconds = 10000000000 := by decide
  obtain ⟨-, -, -, hfirst⟩ := backoffWith_bounds rfl hfloor hceiling 0 0
  obtain ⟨hmost, hleast, -, -⟩ := backoffWith_bounds rfl hfloor hceiling 4294967295 0
  have hlast : (4294967295 : UInt32).toNat = 4294967295 := rfl
  rw [hlast] at hmost hleast
  rw [hpart] at hfirst hmost hleast
  rw [hlongest] at hmost
  exact ⟨rfl, hfloor, hceiling, hfirst rfl, by omega, by omega⟩

/-- Before the first retry, a floor of one and a half milliseconds is waited for one. -/
theorem part_of_floor_lost :
    let p : RetryPolicy := { standard with floor := ⟨1500000, by decide⟩, jitter := false }
    p.jitter = false ∧ p.floor.nanoseconds < 2 ^ 53 * 1000000 ∧
      p.ceiling.nanoseconds < 2 ^ 53 * 1000000 ∧ p.backoffWith 0 0 = 1 ∧
      p.backoffWith 0 0 * 1000000 < p.floor.nanoseconds := by
  intro p
  have hlongest : p.longestDelay < 2 ^ 53 := by decide
  have hdelay : p.backoffWith 0 0 = 1 := by
    rw [backoffWith_of_not_jitter rfl, backoff_zero hlongest]
    decide
  refine ⟨rfl, by decide, by decide, hdelay, ?_⟩
  rw [hdelay]
  decide

/-- From the exponent 53 on, every power but that of one is beyond a limit below 2^53. -/
theorem min_mul_pow_min {f l k : Nat} (hf : 0 < f) (hl : l < 2 ^ 53) (hm : 1 ≤ m) (hk : 53 ≤ k)
    (n : Nat) : min (f * m ^ min n k) l = min (f * m ^ n) l := by
  by_cases hn : n ≤ k
  · rw [min_eq_left hn]
  · by_cases hone : m = 1
    · simp [hone]
    · have hlarge : ∀ e, 53 ≤ e → l ≤ f * m ^ e := by
        intro e he
        calc l ≤ 2 ^ 53 := hl.le
          _ ≤ 2 ^ e := Nat.pow_le_pow_right (by decide) he
          _ ≤ m ^ e := Nat.pow_le_pow_left (by omega) e
          _ ≤ f * m ^ e := Nat.le_mul_of_pos_left _ hf
      rw [min_eq_right (hlarge _ (by omega)), min_eq_right (hlarge _ (by omega))]

theorem factor_eq (hm : 1 ≤ m) (hm' : m < 2 ^ 53) (h : p.multiplier = .ofNat m) :
    p.factor = .ofNat m := by
  rw [factor, h, Binary64.max_ofNat_one hm hm']

theorem backoff_of_floor_pos (hlongest : p.longestDelay < 2 ^ 53) (hm : 1 ≤ m) (hm' : m < 2 ^ 53)
    (hmultiplier : p.multiplier = .ofNat m) (hfloor : 0 < p.floor.millis) (retry : Nat) :
    p.backoff retry = min (p.floor.millis * m ^ retry) p.longestDelay := by
  have hpow := (Binary64.standsFor_ofNat m).pow hm (min retry exponentLimit)
  have hdelay := (Binary64.standsFor_ofNat p.floor.millis).mul hpow hfloor (pow_pos hm _)
  rw [← min_mul_pow_min hfloor hlongest hm (by decide : 53 ≤ exponentLimit)]
  refine backoff_eq ((min_le_right _ _).trans_lt hlongest) ?_
  rw [steady, delayLimit_eq hlongest, factor_eq hm hm' hmultiplier, hdelay.min hlongest]

theorem backoff_of_overflows (hlongest : p.longestDelay < 2 ^ 53) (hfloor : p.floor.millis = 0)
    (h : p.Overflows retry) : p.backoff retry = p.ceiling.millis := by
  have hceiling : p.longestDelay = p.ceiling.millis := by
    rw [longestDelay, hfloor, Nat.zero_max]
  rw [← hceiling]
  refine backoff_eq hlongest ?_
  rw [steady, h, delayLimit_eq hlongest, hfloor, Binary64.ofNat_eq (by decide), Nat.zero_mul]
  rfl

theorem backoff_of_not_overflows (hlongest : p.longestDelay < 2 ^ 53) (hfloor : p.floor.millis = 0)
    (h : ¬ p.Overflows retry) : p.backoff retry = 0 := by
  have hpow := p.atLeast_factor_pow (min retry exponentLimit)
  refine backoff_eq (by decide) ?_
  rw [Overflows] at h
  rw [steady, delayLimit_eq hlongest, hfloor, Binary64.ofNat_eq (by decide)]
  generalize p.factor.pow _ = power at hpow h
  cases hpow with
  | infinite => exact absurd rfl h
  | @finite u hu =>
    rw [Nat.zero_mul, Binary64.mul_finite,
      Binary64.ofUnits_eq (n := 0) (by decide) Binary64.one_pos (by simp), Binary64.min_finite,
      Nat.zero_mul, Nat.zero_min]

theorem not_overflows (hm : 1 ≤ m) (hm' : m < 2 ^ 53) (hmultiplier : p.multiplier = .ofNat m)
    {c : Nat} (hc : m ≤ 2 ^ c) (hsmall : c * retry < 1024) : ¬ p.Overflows retry := by
  intro h
  have hle : c * min retry exponentLimit ≤ c * retry := Nat.mul_le_mul_left c (min_le_left _ _)
  obtain ⟨u, hu⟩ := Binary64.exists_pow_eq_finite hm' hc (hle.trans_lt hsmall)
  rw [Overflows, factor_eq hm hm' hmultiplier, hu] at h
  cases h

theorem overflows (hm : 1 ≤ m) (hm' : m < 2 ^ 53) (hmultiplier : p.multiplier = .ofNat m)
    {c : Nat} (hc : 2 ^ c ≤ m) (hlarge : 1024 ≤ c * retry) : p.Overflows retry := by
  have hexponent : 1024 ≤ c * min retry exponentLimit := by
    rcases min_choice retry exponentLimit with heq | heq
    · rwa [heq]
    · have hpos : 0 < c := Nat.pos_of_ne_zero (by rintro rfl; omega)
      rw [heq]
      exact (by decide : 1024 ≤ exponentLimit).trans (Nat.le_mul_of_pos_left _ hpos)
  rw [Overflows, factor_eq hm hm' hmultiplier]
  exact Binary64.pow_eq_infinite hm' hc hexponent

/-- With a whole factor a delay is the floor times its power, at most the ceiling, in exact numbers.
Only with a floor of zero and a power that is too large to be finite, the delay is the ceiling. A
power of two is too large from 2^1024 on. -/
theorem backoffWith_formula (hjitter : p.jitter = false) (hfloor : p.floor.millis < 2 ^ 53)
    (hceiling : p.ceiling.millis < 2 ^ 53) (hm : 1 ≤ m) (hm' : m < 2 ^ 53)
    (hmultiplier : p.multiplier = .ofNat m) (retry : UInt32) (bits : UInt64) :
    (¬ (p.floor.millis = 0 ∧ p.Overflows retry.toNat) →
      p.backoffWith retry.toNat bits =
        min (p.floor.millis * m ^ retry.toNat) (max p.floor.millis p.ceiling.millis)) ∧
    (p.floor.millis = 0 ∧ p.Overflows retry.toNat →
      p.backoffWith retry.toNat bits = p.ceiling.millis) ∧
    (∀ c, m ≤ 2 ^ c → c * retry.toNat < 1024 → ¬ p.Overflows retry.toNat) ∧
    ∀ c, 2 ^ c ≤ m → 1024 ≤ c * retry.toNat → p.Overflows retry.toNat := by
  have hlongest : p.longestDelay < 2 ^ 53 := max_lt hfloor hceiling
  rw [backoffWith_of_not_jitter hjitter]
  refine ⟨fun h => ?_, fun h => backoff_of_overflows hlongest h.1 h.2,
    fun c => not_overflows hm hm' hmultiplier, fun c => overflows hm hm' hmultiplier⟩
  by_cases hz : p.floor.millis = 0
  · rw [backoff_of_not_overflows hlongest hz (fun hover => h ⟨hz, hover⟩), hz, Nat.zero_mul,
      Nat.zero_min]
  · exact backoff_of_floor_pos hlongest hm hm' hmultiplier (Nat.pos_of_ne_zero hz) _

/-- All sixteen digits of a delay just below its ceiling are exact. -/
theorem backoffWith_formula_thirty_first :
    let p : RetryPolicy :=
      { standard with
        floor := .ofMillis 7, ceiling := .ofMillis 9007199254740991, multiplier := .ofNat 3, jitter := false }
    p.jitter = false ∧ p.floor.millis < 2 ^ 53 ∧ p.ceiling.millis < 2 ^ 53 ∧
      p.multiplier = .ofNat 3 ∧ ¬ (p.floor.millis = 0 ∧ p.Overflows 31) ∧
      p.backoffWith 31 0 = 4323713773987629 := by
  intro p
  have hfloor : p.floor.millis < 2 ^ 53 := by decide
  have hceiling : p.ceiling.millis < 2 ^ 53 := by decide
  have hmultiplier : p.multiplier = .ofNat 3 := by dsimp only [p]
  have hpositive : ¬ (p.floor.millis = 0 ∧ p.Overflows 31) := fun h => absurd h.1 (by decide)
  have hformula := (backoffWith_formula rfl hfloor hceiling (by decide) (by decide) hmultiplier
    31 0).1 hpositive
  exact ⟨rfl, hfloor, hceiling, hmultiplier, hpositive, hformula.trans (by decide)⟩

/-- By its formula a floor of zero never waits, but here it does for ten seconds. -/
theorem zero_floor_waits :
    let p : RetryPolicy := { standard with floor := .ofMillis 0, jitter := false }
    p.jitter = false ∧ p.floor.millis = 0 ∧ p.multiplier = .ofNat 2 ∧ p.backoffWith 1024 0 = 10000 ∧
      min (p.floor.millis * 2 ^ 1024) (max p.floor.millis p.ceiling.millis) = 0 := by
  intro p
  have hlongest : p.longestDelay < 2 ^ 53 := by decide
  have hfloor : p.floor.millis = 0 := by decide
  have hmultiplier : p.multiplier = .ofNat 2 := by dsimp only [p, standard]
  have hover : p.Overflows 1024 :=
    overflows (c := 1) (by decide) (by decide) hmultiplier le_rfl (by decide)
  refine ⟨rfl, hfloor, hmultiplier, ?_, ?_⟩
  · rw [backoffWith_of_not_jitter rfl, backoff_of_overflows hlongest hfloor hover]
    decide
  · rw [hfloor, Nat.zero_mul, Nat.zero_min]

end TwinCatalogue.RetryPolicy
