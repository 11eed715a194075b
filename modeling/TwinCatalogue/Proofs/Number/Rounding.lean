import Mathlib.Algebra.Order.Ring.Nat
import Mathlib.Data.Nat.Log
import TwinCatalogue.Number.Binary64

/-! Rounding to double precision never passes a number that has a significand of 53 bits: what is
not below such a number is not rounded below it, and what is not above it is not rounded above it.
Products can so be compared with such numbers without following the rounding. -/

namespace TwinCatalogue.Binary64

/-- The numbers of units that a significand of 53 bits can hold. -/
def Representable (units : Nat) : Prop := step units ∣ units

/-- One is two to this power of units. -/
def unitPlaces : Nat := 1074

/-- Two to this power is the least whole number that is too large to be finite. -/
def rangePlaces : Nat := 1024

theorem one_eq : one = 2 ^ unitPlaces := by decide +kernel

theorem limit_eq : limit = 2 ^ rangePlaces * one := by decide +kernel

theorem one_pos : 0 < one := by
  rw [one_eq]
  exact Nat.two_pow_pos _

theorem step_pos (units : Nat) : 0 < step units := Nat.two_pow_pos _

theorem step_dvd_step {u v : Nat} (h : u ≤ v) : step u ∣ step v := by
  have hlog : u.log2 ≤ v.log2 := by
    rw [Nat.log2_eq_log_two, Nat.log2_eq_log_two]
    exact Nat.log_mono_right h
  exact pow_dvd_pow 2 (by omega)

theorem representable_mul_pow {m : Nat} (hm : m < 2 ^ 53) (e : Nat) : Representable (m * 2 ^ e) := by
  by_cases hz : m = 0
  · simp [Representable, hz]
  · have hne : m * 2 ^ e ≠ 0 := Nat.mul_ne_zero hz (Nat.two_pow_pos e).ne'
    have hlt : m * 2 ^ e < 2 ^ (53 + e) := by
      rw [pow_add]
      exact Nat.mul_lt_mul_of_pos_right hm (Nat.two_pow_pos e)
    have hlog : (m * 2 ^ e).log2 < 53 + e := (Nat.log2_lt hne).mpr hlt
    exact (pow_dvd_pow 2 (by omega)).trans (Nat.dvd_mul_left _ m)

theorem representable_mul_one {n : Nat} (hn : n < 2 ^ 53) : Representable (n * one) := by
  rw [one_eq]
  exact representable_mul_pow hn _

theorem representable_pow_mul_one (k : Nat) : Representable (2 ^ k * one) := by
  rw [one_eq, ← pow_add, ← Nat.one_mul (2 ^ _)]
  exact representable_mul_pow (by decide) _

theorem step_dvd_or_lt {k : Nat} (hk : Representable k) (q : Nat) :
    step q ∣ k ∨ k < 2 ^ q.log2 := by
  by_cases hlt : k < 2 ^ q.log2
  · exact .inr hlt
  · have hpow := Nat.two_pow_pos q.log2
    have hlog : q.log2 ≤ k.log2 := (Nat.le_log2 (by omega)).mpr (Nat.not_lt.mp hlt)
    exact .inl ((pow_dvd_pow 2 (by omega)).trans hk)

theorem div_le_roundDiv (num den : Nat) : num / den ≤ roundDiv num den := by
  unfold roundDiv
  dsimp only
  split
  · exact le_rfl
  · split <;> omega

theorem roundDiv_le {num den k : Nat} (hden : 0 < den) (h : num ≤ k * den) :
    roundDiv num den ≤ k := by
  have hq : num / den ≤ k := Nat.div_le_of_le_mul (by rwa [Nat.mul_comm])
  by_cases hk : num / den = k
  · have hr : num % den = 0 := by
      have hsplit := Nat.div_add_mod num den
      rw [hk, Nat.mul_comm] at hsplit
      omega
    simp [roundDiv, hr, hden, hk]
  · unfold roundDiv
    dsimp only
    split
    · exact hq
    · split <;> omega

theorem le_roundUnits_of_dvd {j num den : Nat} (hdvd : step (num / den) ∣ j) (h : j ≤ num / den) :
    j ≤ roundUnits num den := by
  obtain ⟨i, hi⟩ := hdvd
  rw [Nat.mul_comm] at hi
  have hfloor : i ≤ num / (den * step (num / den)) := by
    rw [← Nat.div_div_eq_div_mul]
    exact (Nat.le_div_iff_mul_le (step_pos _)).mpr (hi ▸ h)
  calc j = i * step (num / den) := hi
    _ ≤ roundUnits num den := Nat.mul_le_mul_right _ (hfloor.trans (div_le_roundDiv _ _))

theorem le_roundUnits {k num den : Nat} (hden : 0 < den) (hk : Representable k)
    (h : k * den ≤ num) : k ≤ roundUnits num den := by
  have hq : k ≤ num / den := (Nat.le_div_iff_mul_le hden).mpr h
  rcases step_dvd_or_lt hk (num / den) with hdvd | hlt
  · exact le_roundUnits_of_dvd hdvd hq
  · -- the leading digit of the quotient alone exceeds `k`
    by_cases hz : num / den = 0
    · omega
    · exact hlt.le.trans (le_roundUnits_of_dvd (pow_dvd_pow 2 (by omega)) (Nat.log2_self_le hz))

theorem roundUnits_le {k num den : Nat} (hden : 0 < den) (hk : Representable k)
    (h : num ≤ k * den) : roundUnits num den ≤ k := by
  have hq : num / den ≤ k := Nat.div_le_of_le_mul (by rwa [Nat.mul_comm])
  obtain ⟨j, hj⟩ : step (num / den) ∣ k := (step_dvd_step hq).trans hk
  have hround : roundDiv num (den * step (num / den)) ≤ j := by
    refine roundDiv_le (Nat.mul_pos hden (step_pos _)) (h.trans_eq ?_)
    rw [Nat.mul_comm, Nat.mul_comm j, Nat.mul_assoc, ← hj]
  calc roundUnits num den ≤ j * step (num / den) := Nat.mul_le_mul_right _ hround
    _ = k := by rw [Nat.mul_comm, ← hj]

theorem roundUnits_eq {k num den : Nat} (hden : 0 < den) (hk : Representable k)
    (h : num = k * den) : roundUnits num den = k :=
  le_antisymm (roundUnits_le hden hk h.le) (le_roundUnits hden hk h.ge)

theorem mul_one_lt_limit {n : Nat} (hn : n < 2 ^ 53) : n * one < limit := by
  rw [limit_eq]
  have hpow : 2 ^ 53 ≤ 2 ^ rangePlaces := Nat.pow_le_pow_right (by decide) (by decide)
  exact Nat.mul_lt_mul_of_pos_right (hn.trans_le hpow) one_pos

theorem ofUnits_eq {n num den : Nat} (hn : n < 2 ^ 53) (hden : 0 < den)
    (h : num = n * one * den) : ofUnits false num den = finite false (n * one) := by
  have hlimit := mul_one_lt_limit hn
  rw [ofUnits, roundUnits_eq hden (representable_mul_one hn) h]
  exact if_neg (by omega)

theorem ofNat_eq {n : Nat} (hn : n < 2 ^ 53) : ofNat n = finite false (n * one) :=
  ofUnits_eq hn Nat.one_pos (Nat.mul_one _).symm

theorem ofNat_one : ofNat 1 = finite false one := by
  rw [ofNat_eq (by decide), Nat.one_mul]

end TwinCatalogue.Binary64
