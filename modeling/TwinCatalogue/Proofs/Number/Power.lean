import TwinCatalogue.Proofs.Number.Magnitude

/-! Powers of double precision numbers. Each product on the way is rounded and may be too large to be
finite; a power is followed by a relation to natural numbers that such products keep. -/

namespace TwinCatalogue.Binary64

variable {R : Binary64 → Nat → Prop} {product base x : Binary64} {a b c m e : Nat}

/-- A relation to natural numbers that products keep is kept by squaring and multiplying. -/
theorem mulPow_induction (hmul : ∀ {x y m n}, R x m → R y n → R (x.mul y) (m * n))
    (ha : R product a) (hb : R base b) (e : Nat) : R (mulPow product base e) (a * b ^ e) := by
  induction e using Nat.strongRecOn generalizing product base a b with
  | ind e ih =>
    have hsplit : a * b ^ e = a * b ^ (e % 2) * (b * b) ^ (e / 2) := by
      rw [Nat.mul_assoc, ← pow_two, ← pow_mul, ← pow_add, Nat.mod_add_div]
    have hproduct : R (if e % 2 = 1 then product.mul base else product) (a * b ^ (e % 2)) := by
      rcases Nat.mod_two_eq_zero_or_one e with hz | ho
      · simpa [hz] using ha
      · simpa [ho] using hmul ha hb
    rw [mulPow, hsplit]
    split
    · rename_i hlast
      simpa [hlast] using hproduct
    · exact ih (e / 2) (by omega) hproduct (hmul hb hb)

theorem pow_induction (hmul : ∀ {x y m n}, R x m → R y n → R (x.mul y) (m * n))
    (hone : R (ofNat 1) 1) (hb : R base b) (e : Nat) : R (base.pow e) (b ^ e) := by
  simpa [pow] using mulPow_induction hmul hone hb e

theorem pow_zero (base : Binary64) : base.pow 0 = ofNat 1 := by
  rw [pow, mulPow]
  simp

theorem StandsFor.pow (h : StandsFor x m) (hm : 0 < m) (e : Nat) : StandsFor (x.pow e) (m ^ e) :=
  (pow_induction (R := fun x n => 0 < n ∧ StandsFor x n)
    (fun hx hy => ⟨Nat.mul_pos hx.1 hy.1, hx.2.mul hy.2 hx.1 hy.1⟩)
    ⟨Nat.one_pos, standsFor_ofNat 1⟩ ⟨hm, h⟩ e).2

theorem AtLeast.pow (h : AtLeast one x) (e : Nat) : AtLeast one (x.pow e) := by
  have hone : AtLeast one (ofNat 1) := by
    rw [ofNat_one]
    exact .finite le_rfl
  have hrepresentable : Representable one := by
    simpa using representable_pow_mul_one 0
  exact pow_induction (R := fun x _ => AtLeast one x)
    (fun hx hy => hx.mul hy one_pos one_pos hrepresentable le_rfl) hone h (b := 1) e

/-- The power of two `n` is not above the number. -/
def AboveTwoPow (x : Binary64) (n : Nat) : Prop :=
  (∃ i, n = 2 ^ i) ∧ AtLeast (n * one) x ∧ Clamped x

/-- The power of two `n` is not below the number, if it is in the range of finite ones. -/
def BelowTwoPow (x : Binary64) (n : Nat) : Prop :=
  (∃ i, n = 2 ^ i) ∧ (n < 2 ^ rangePlaces → AtMost (n * one) x)

theorem two_pow_mul_one (i j : Nat) :
    2 ^ i * one * (2 ^ j * one) = 2 ^ (i + j) * one * one := by
  rw [pow_add]
  ring

theorem AboveTwoPow.mul {y : Binary64} {n : Nat} (hx : AboveTwoPow x m) (hy : AboveTwoPow y n) :
    AboveTwoPow (x.mul y) (m * n) := by
  obtain ⟨⟨i, rfl⟩, hx, -⟩ := hx
  obtain ⟨⟨j, rfl⟩, hy, -⟩ := hy
  have hi : 0 < 2 ^ i * one := Nat.mul_pos (Nat.two_pow_pos i) one_pos
  have hj : 0 < 2 ^ j * one := Nat.mul_pos (Nat.two_pow_pos j) one_pos
  rw [← pow_add]
  exact ⟨⟨i + j, rfl⟩, hx.mul hy hi hj (representable_pow_mul_one _) (two_pow_mul_one i j).ge,
    clamped_mul x y⟩

theorem BelowTwoPow.mul {y : Binary64} {n : Nat} (hx : BelowTwoPow x m) (hy : BelowTwoPow y n) :
    BelowTwoPow (x.mul y) (m * n) := by
  obtain ⟨⟨i, rfl⟩, hx⟩ := hx
  obtain ⟨⟨j, rfl⟩, hy⟩ := hy
  refine ⟨⟨i + j, (pow_add 2 i j).symm⟩, fun h => ?_⟩
  have hi : 2 ^ i < 2 ^ rangePlaces := (Nat.le_mul_of_pos_right _ (Nat.two_pow_pos j)).trans_lt h
  have hj : 2 ^ j < 2 ^ rangePlaces := (Nat.le_mul_of_pos_left _ (Nat.two_pow_pos i)).trans_lt h
  have hlimit : 2 ^ i * 2 ^ j * one < limit := by
    rw [limit_eq]
    exact Nat.mul_lt_mul_of_pos_right h one_pos
  rw [← pow_add] at hlimit ⊢
  exact (hx hi).mul (hy hj) (representable_pow_mul_one _) hlimit (two_pow_mul_one i j).le

theorem aboveTwoPow_ofNat (hm : m < 2 ^ 53) (hc : 2 ^ c ≤ m) : AboveTwoPow (ofNat m) (2 ^ c) := by
  refine ⟨⟨c, rfl⟩, ?_, clamped_ofUnits _ _ _⟩
  rw [ofNat_eq hm]
  exact .finite (Nat.mul_le_mul_right _ hc)

theorem belowTwoPow_ofNat (hm : m < 2 ^ 53) (hc : m ≤ 2 ^ c) : BelowTwoPow (ofNat m) (2 ^ c) := by
  refine ⟨⟨c, rfl⟩, fun _ => ?_⟩
  rw [ofNat_eq hm]
  exact .finite (Nat.mul_le_mul_right _ hc)

theorem pow_eq_infinite (hm : m < 2 ^ 53) (hc : 2 ^ c ≤ m) (he : rangePlaces ≤ c * e) :
    (ofNat m).pow e = .infinite false := by
  have hone : AboveTwoPow (ofNat 1) (2 ^ 0) := aboveTwoPow_ofNat (by decide) le_rfl
  obtain ⟨-, hpow, hclamped⟩ := pow_induction AboveTwoPow.mul hone (aboveTwoPow_ofNat hm hc) e
  refine hpow.eq_infinite hclamped ?_
  rw [limit_eq, ← pow_mul]
  exact Nat.mul_le_mul_right _ (Nat.pow_le_pow_right (by decide) he)

theorem exists_pow_eq_finite (hm : m < 2 ^ 53) (hc : m ≤ 2 ^ c) (he : c * e < rangePlaces) :
    ∃ u, (ofNat m).pow e = finite false u := by
  have hone : BelowTwoPow (ofNat 1) (2 ^ 0) := belowTwoPow_ofNat (by decide) le_rfl
  obtain ⟨-, hpow⟩ := pow_induction BelowTwoPow.mul hone (belowTwoPow_ofNat hm hc) e
  rw [← pow_mul] at hpow
  exact (hpow (Nat.pow_lt_pow_right (by decide) he)).eq_finite

end TwinCatalogue.Binary64
