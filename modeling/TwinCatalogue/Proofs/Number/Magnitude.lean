import Mathlib.Tactic.Ring
import TwinCatalogue.Proofs.Number.Rounding

/-! How double precision numbers compare with exact ones, and how products and cutting off at a bound
keep that. A number that is not below another may be infinite; one that stands for a natural number
is that number as long as a significand can hold it. -/

namespace TwinCatalogue.Binary64

/-- The numbers that are not below a number of units. -/
inductive AtLeast (bound : Nat) : Binary64 → Prop
  | infinite : AtLeast bound (infinite false)
  | finite {units : Nat} (h : bound ≤ units) : AtLeast bound (finite false units)

inductive AtMost (bound : Nat) : Binary64 → Prop
  | finite {units : Nat} (h : units ≤ bound) : AtMost bound (finite false units)

/-- A number that is infinite rather than beyond the range of finite ones. -/
def Clamped (x : Binary64) : Prop := ∀ s u, x = finite s u → u < limit

/-- What becomes of a natural number through rounded products: the same number below 2^53, and from
there on a number that is not below 2^53 either. -/
structure StandsFor (x : Binary64) (n : Nat) : Prop where
  exact : n < 2 ^ 53 → x = finite false (n * one)
  large : 2 ^ 53 ≤ n → AtLeast (2 ^ 53 * one) x

section Mul

variable {x y : Binary64} {a b c m n : Nat}

theorem AtLeast.mono (h : AtLeast a x) (hba : b ≤ a) : AtLeast b x := by
  cases h with
  | infinite => exact .infinite
  | finite h => exact .finite (hba.trans h)

theorem mul_finite (u v : Nat) :
    (finite false u).mul (finite false v) = ofUnits false (u * v) one := rfl

theorem mul_ofNat_one (hn : n < 2 ^ 53) : (ofNat n).mul (ofNat 1) = finite false (n * one) := by
  rw [ofNat_eq hn, ofNat_one, mul_finite]
  exact ofUnits_eq hn one_pos rfl

theorem atLeast_ofUnits {num den : Nat} (hden : 0 < den) (hc : Representable c)
    (h : c * den ≤ num) : AtLeast c (ofUnits false num den) := by
  unfold ofUnits
  dsimp only
  split
  · exact .infinite
  · exact .finite (le_roundUnits hden hc h)

theorem AtLeast.mul (hx : AtLeast a x) (hy : AtLeast b y) (ha : 0 < a) (hb : 0 < b)
    (hc : Representable c) (h : c * one ≤ a * b) : AtLeast c (x.mul y) := by
  cases hx with
  | infinite =>
    cases hy with
    | infinite => exact .infinite
    | @finite v hv =>
      have hz : v ≠ 0 := by omega
      simpa [Binary64.mul, hz] using .infinite
  | @finite u hu =>
    cases hy with
    | infinite =>
      have hz : u ≠ 0 := by omega
      simpa [Binary64.mul, hz] using .infinite
    | finite hv =>
      rw [mul_finite]
      exact atLeast_ofUnits one_pos hc (h.trans (Nat.mul_le_mul hu hv))

theorem AtMost.mul (hx : AtMost a x) (hy : AtMost b y) (hc : Representable c) (hlimit : c < limit)
    (h : a * b ≤ c * one) : AtMost c (x.mul y) := by
  cases hx with
  | @finite u hu =>
    cases hy with
    | @finite v hv =>
      have hround := roundUnits_le one_pos hc ((Nat.mul_le_mul hu hv).trans h)
      rw [mul_finite, ofUnits, if_neg (by omega)]
      exact .finite hround

theorem AtMost.eq_finite (h : AtMost a x) : ∃ u, x = .finite false u := by
  cases h with
  | finite h => exact ⟨_, rfl⟩

theorem clamped_ofUnits (s : Bool) (num den : Nat) : Clamped (ofUnits s num den) := by
  intro t u h
  unfold ofUnits at h
  dsimp only at h
  split at h
  · cases h
  · cases h
    omega

theorem clamped_mul (x y : Binary64) : Clamped (x.mul y) := by
  intro s u h
  unfold Binary64.mul at h
  split at h
  case h_6 => exact clamped_ofUnits _ _ _ s u h
  -- only finite numbers have a finite product
  all_goals first
    | cases h
    | (split at h <;> cases h)

theorem AtLeast.eq_infinite (h : AtLeast a x) (hx : Clamped x) (ha : limit ≤ a) :
    x = .infinite false := by
  cases h with
  | infinite => rfl
  | finite hu =>
    have := hx _ _ rfl
    omega

theorem standsFor_ofNat (n : Nat) : StandsFor (ofNat n) n where
  exact := ofNat_eq
  large h := by
    refine atLeast_ofUnits Nat.one_pos (representable_pow_mul_one _) ?_
    rw [Nat.mul_one]
    exact Nat.mul_le_mul_right _ h

theorem StandsFor.atLeast (h : StandsFor x n) : AtLeast ((n ⊓ 2 ^ 53) * one) x := by
  by_cases hn : n < 2 ^ 53
  · rw [h.exact hn, min_eq_left hn.le]
    exact .finite le_rfl
  · rw [min_eq_right (by omega)]
    exact h.large (by omega)

theorem le_min_mul_min {k : Nat} (hm : 0 < m) (hn : 0 < n) (h : k ≤ m * n) :
    k ≤ (m ⊓ k) * (n ⊓ k) := by
  by_cases hmk : m ≤ k
  · by_cases hnk : n ≤ k
    · rwa [min_eq_left hmk, min_eq_left hnk]
    · rw [min_eq_left hmk, min_eq_right (by omega)]
      exact Nat.le_mul_of_pos_left k hm
  · rw [min_eq_right (by omega)]
    by_cases hk : k = 0
    · omega
    · exact Nat.le_mul_of_pos_right k (lt_min hn (by omega))

theorem StandsFor.mul (hx : StandsFor x m) (hy : StandsFor y n) (hm : 0 < m) (hn : 0 < n) :
    StandsFor (x.mul y) (m * n) where
  exact h := by
    have hm' : m < 2 ^ 53 := (Nat.le_mul_of_pos_right m hn).trans_lt h
    have hn' : n < 2 ^ 53 := (Nat.le_mul_of_pos_left n hm).trans_lt h
    rw [hx.exact hm', hy.exact hn', mul_finite]
    exact ofUnits_eq h one_pos (by ring)
  large h := by
    -- cut off at 2^53, both factors are exact bounds, and their product still reaches 2^53
    have hone := one_pos
    refine hx.atLeast.mul hy.atLeast (Nat.mul_pos ?_ hone) (Nat.mul_pos ?_ hone)
      (representable_pow_mul_one _) ?_
    · exact lt_min hm (Nat.two_pow_pos _)
    · exact lt_min hn (Nat.two_pow_pos _)
    · calc 2 ^ 53 * one * one ≤ (m ⊓ 2 ^ 53) * (n ⊓ 2 ^ 53) * one * one :=
            Nat.mul_le_mul_right _ (Nat.mul_le_mul_right _ (le_min_mul_min hm hn h))
        _ = (m ⊓ 2 ^ 53) * one * ((n ⊓ 2 ^ 53) * one) := by ring

end Mul

section Order

variable {x : Binary64} {a l n u v : Nat}

theorem less_finite : (finite false u).less (finite false v) = decide (u < v) := by
  simp [less, signed]

theorem min_finite : (finite false u).min (finite false v) = finite false (u ⊓ v) := by
  change (if (finite false v).less (finite false u) then finite false v else finite false u) = _
  rw [less_finite]
  by_cases h : v < u
  · simp [h, h.le]
  · simp [h, Nat.not_lt.mp h]

/-- Cutting off at a bound that a number is not below gives the bound. -/
theorem AtLeast.min_eq (h : AtLeast v x) : x.min (.finite false v) = .finite false v := by
  cases h with
  | infinite => rfl
  | finite h => rw [min_finite, min_eq_right h]

theorem AtLeast.exists_min (h : AtLeast a x) (ha : a ≤ v) :
    ∃ u, x.min (.finite false v) = .finite false u ∧ a ≤ u ∧ u ≤ v := by
  cases h with
  | infinite => exact ⟨v, rfl, ha, le_rfl⟩
  | finite h => exact ⟨_, min_finite, le_inf h ha, inf_le_right⟩

theorem StandsFor.min (h : StandsFor x n) (hl : l < 2 ^ 53) :
    x.min (finite false (l * one)) = finite false ((n ⊓ l) * one) := by
  by_cases hn : n < 2 ^ 53
  · rw [h.exact hn, min_finite, ← Nat.mul_min_mul_right]
  · have hlarge : AtLeast (l * one) x :=
      (h.large (by omega)).mono (Nat.mul_le_mul_right _ hl.le)
    rw [hlarge.min_eq, min_eq_right (by omega)]

theorem toNat_toUInt64 (h : u / one < 2 ^ 64) : (finite false u).toUInt64.toNat = u / one := by
  have hmin : Nat.min (u / one) (Nat.pow 2 64 - 1) = u / one :=
    Nat.min_eq_left (Nat.le_sub_one_of_lt h)
  simp only [toUInt64, Bool.false_eq_true, if_false, hmin]
  exact Nat.mod_eq_of_lt h

theorem max_finite : (finite false u).max (finite false v) = finite false (u ⊔ v) := by
  change (if (finite false u).less (finite false v) then finite false v else finite false u) = _
  rw [less_finite]
  by_cases h : u < v
  · simp [h, h.le]
  · simp [h, Nat.not_lt.mp h]

theorem max_ofNat_one (hn : 1 ≤ n) (hn' : n < 2 ^ 53) : (ofNat n).max (ofNat 1) = ofNat n := by
  rw [ofNat_eq hn', ofNat_eq (by decide), max_finite, max_eq_left (Nat.mul_le_mul_right _ hn)]

theorem atLeast_max_one (x : Binary64) : AtLeast one (x.max (ofNat 1)) := by
  rw [ofNat_one]
  cases x with
  | nan => exact .finite le_rfl
  | infinite s =>
    cases s with
    | true => exact .finite le_rfl
    | false => exact .infinite
  | finite s u =>
    cases s with
    | true =>
      have hless : (finite true u).less (finite false one) = true := by
        have := one_pos
        simp only [less, signed, decide_eq_true_eq, if_true, Bool.false_eq_true, if_false]
        omega
      simpa [Binary64.max, hless] using .finite le_rfl
    | false =>
      rw [max_finite]
      exact .finite le_sup_right

end Order

end TwinCatalogue.Binary64
