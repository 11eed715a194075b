import TwinCatalogue.Json.Printing
import TwinCatalogue.Json.Reading

/-! The parts of a number as it is printed, and that it is read back in just these parts. -/

namespace TwinCatalogue

namespace Json

/-- What stands behind a printed value: nothing, or a comma or a line end and whatever else. -/
def Follows (rest : List Char) : Prop := ∀ c, rest.head? = some c → c = ',' ∨ c = '\n'

theorem follows_cons {c : Char} (h : c = ',' ∨ c = '\n') (rest : List Char) :
    Follows (c :: rest) := by
  rintro _ ⟨⟩
  exact h

def NoDigit (rest : List Char) : Prop := ∀ c, rest.head? = some c → c.isDigit = false

theorem noDigit_cons {c : Char} (h : c.isDigit = false) (rest : List Char) : NoDigit (c :: rest) := by
  rintro _ ⟨⟩
  exact h

theorem Follows.noDigit {rest : List Char} (h : Follows rest) : NoDigit rest := by
  intro c hc
  rcases h c hc with rfl | rfl <;> rfl

theorem digits_append {cs rest : List Char} (h : ∀ c ∈ cs, c.isDigit = true)
    (hrest : NoDigit rest) : digits (cs ++ rest) = (cs, rest) := by
  rw [digits, List.takeWhile_append_of_pos h, List.dropWhile_append_of_pos h]
  cases rest with
  | nil => rw [List.takeWhile_nil, List.dropWhile_nil, List.append_nil]
  | cons c rest =>
    have hc : ¬ c.isDigit = true := by
      rw [hrest c rfl]
      exact Bool.false_ne_true
    rw [List.takeWhile_cons_of_neg hc, List.dropWhile_cons_of_neg hc, List.append_nil]

theorem isDigit_replicate (n : Nat) : ∀ c ∈ List.replicate n '0', c.isDigit = true := by
  intro c hc
  rw [List.eq_of_mem_replicate hc]
  rfl

theorem isDigit_append {cs ds : List Char} (h : ∀ c ∈ cs, c.isDigit = true)
    (h' : ∀ c ∈ ds, c.isDigit = true) : ∀ c ∈ cs ++ ds, c.isDigit = true := by
  intro c hc
  exact (List.mem_append.mp hc).elim (h c) (h' c)

theorem someDigits_append {cs rest : List Char} (hne : cs ≠ []) (h : ∀ c ∈ cs, c.isDigit = true)
    (hrest : NoDigit rest) : someDigits (cs ++ rest) = .ok (cs, rest) := by
  obtain ⟨c, cs, rfl⟩ := List.exists_cons_of_ne_nil hne
  rw [someDigits, digits_append h hrest]

/-- Digits that can stand before a point: at least one, and no zero before another one. -/
structure Whole (cs : List Char) : Prop where
  ne_nil : cs ≠ []
  digits : ∀ c ∈ cs, c.isDigit = true
  zero : cs.head? = some '0' → cs = ['0']

theorem whole_zero : Whole ['0'] := ⟨nofun, by simp, fun _ => rfl⟩

theorem whole_of_head {cs : List Char} (hne : cs ≠ []) (h : ∀ c ∈ cs, c.isDigit = true)
    (hhead : cs.head? ≠ some '0') : Whole cs :=
  ⟨hne, h, fun hzero => absurd hzero hhead⟩

theorem wholeDigits_append {cs rest : List Char} (h : Whole cs) (hrest : NoDigit rest) :
    wholeDigits (cs ++ rest) = .ok (cs, rest) := by
  obtain ⟨c, cs, rfl⟩ := List.exists_cons_of_ne_nil h.ne_nil
  by_cases hc : c = '0'
  · obtain rfl : cs = [] := by
      subst hc
      exact (List.cons.inj (h.zero rfl)).2
    subst hc
    cases rest with
    | nil => exact someDigits_append h.ne_nil h.digits hrest
    | cons d rest =>
      change (if d.isDigit = true then _ else _) = _
      rw [hrest d rfl, if_neg Bool.false_ne_true]
  · have hread : wholeDigits (c :: cs ++ rest) = someDigits (c :: cs ++ rest) := by
      rw [List.cons_append, wholeDigits]
      intro d ds heq
      exact hc (List.cons.inj heq).1
    rw [hread, someDigits_append h.ne_nil h.digits hrest]

theorem head?_toDigits_ne {n : Nat} (h : n ≠ 0) : (Nat.toDigits 10 n).head? ≠ some '0' := by
  induction n using Nat.strongRecOn with
  | ind n ih =>
    rw [Nat.toDigits_eq_if (by decide)]
    split
    · have hdigit : ∀ d : Fin 10, d.val ≠ 0 → d.val.digitChar ≠ '0' := by decide
      rename_i hlt
      intro hhead
      exact hdigit ⟨n, hlt⟩ h (Option.some.inj hhead)
    · have hhead := ih (n / 10) (by omega) (by omega)
      rwa [List.head?_append, Option.or_of_isSome (List.isSome_head?.mpr Nat.toDigits_ne_nil)]

theorem isDigit_toDigits (n : Nat) : ∀ c ∈ Nat.toDigits 10 n, c.isDigit = true :=
  fun _ hc => Nat.isDigit_of_mem_toDigits (by decide) (Nat.le_refl 10) hc

theorem whole_toDigits (n : Nat) : Whole (Nat.toDigits 10 n) := by
  refine ⟨Nat.toDigits_ne_nil, isDigit_toDigits n, fun hhead => ?_⟩
  by_cases hn : n = 0
  · subst hn
    rfl
  · exact absurd hhead (head?_toDigits_ne hn)

/-- The fraction of a number with the point before it, if it has any. -/
def fractionText : List Char → List Char
  | [] => []
  | c :: cs => '.' :: c :: cs

theorem fractionText_of_ne_nil {cs : List Char} (h : cs ≠ []) : fractionText cs = '.' :: cs := by
  obtain ⟨c, cs, rfl⟩ := List.exists_cons_of_ne_nil h
  rfl

theorem fractionDigits_append {cs rest : List Char} (h : ∀ c ∈ cs, c.isDigit = true)
    (hrest : NoDigit rest) (hpoint : rest.head? ≠ some '.') :
    fractionDigits (fractionText cs ++ rest) = .ok (cs, rest) := by
  cases cs with
  | nil =>
    rw [fractionText, List.nil_append, fractionDigits]
    rintro cs rfl
    exact hpoint rfl
  | cons c cs => exact someDigits_append (List.cons_ne_nil c cs) h hrest

def powerText : Option Int → List Char
  | none => []
  | some power => 'e' :: (DecimalDigits.signedPower power).toList

theorem noDigit_powerText {rest : List Char} (h : Follows rest) (power : Option Int) :
    NoDigit (powerText power ++ rest) := by
  cases power with
  | none => exact h.noDigit
  | some power => exact noDigit_cons rfl _

theorem head?_powerText_ne {rest : List Char} (h : Follows rest) (power : Option Int) :
    (powerText power ++ rest).head? ≠ some '.' := by
  cases power with
  | none =>
    intro hpoint
    exact absurd (h '.' hpoint) (by decide)
  | some power => exact nofun

/-- The digits of a power, at least two of them. -/
def powerDigits (n : Nat) : List Char :=
  if (Nat.toDigits 10 n).length < 2 then '0' :: Nat.toDigits 10 n else Nat.toDigits 10 n

theorem isDigit_powerDigits (n : Nat) : ∀ c ∈ powerDigits n, c.isDigit = true := by
  unfold powerDigits
  split
  · intro c hc
    rcases List.mem_cons.mp hc with rfl | hc
    · rfl
    · exact isDigit_toDigits n c hc
  · exact isDigit_toDigits n

theorem powerDigits_ne_nil (n : Nat) : powerDigits n ≠ [] := by
  unfold powerDigits
  split
  · exact List.cons_ne_nil _ _
  · exact Nat.toDigits_ne_nil

theorem ofDigits_toDigits (n : Nat) : Decimal.ofDigits (Nat.toDigits 10 n) = n := by
  have h := Nat.ofDigitChars_ten_toDigits (n := n)
  rw [Nat.ofDigitChars] at h
  simp only [Nat.mul_comm 10] at h
  exact h

theorem ofDigits_powerDigits (n : Nat) : Decimal.ofDigits (powerDigits n) = n := by
  unfold powerDigits
  split
  · exact ofDigits_toDigits n
  · exact ofDigits_toDigits n

theorem exponentDigits_signed {rest : List Char} (h : NoDigit rest) (negative : Bool) (n : Nat) :
    exponentDigits ('e' :: (if negative then '-' else '+') :: (powerDigits n ++ rest)) =
      .ok (some (if negative then -(n : Int) else n), rest) := by
  have hread := someDigits_append (powerDigits_ne_nil n) (isDigit_powerDigits n) h
  have hvalue : (powerDigits n).foldl (fun n c => n * 10 + (c.toNat - '0'.toNat)) 0 = n :=
    ofDigits_powerDigits n
  cases negative with
  | false =>
    simp only [exponentDigits, true_or, if_true, if_neg Bool.false_ne_true, hread, bind, Except.bind]
    rw [hvalue]
    rfl
  | true =>
    simp only [exponentDigits, true_or, if_true, hread, bind, Except.bind]
    rw [hvalue]
    rfl

theorem exponentDigits_append {rest : List Char} (h : Follows rest) (power : Option Int) :
    exponentDigits (powerText power ++ rest) = .ok (power, rest) := by
  cases power with
  | none =>
    cases rest with
    | nil => rfl
    | cons c rest =>
      have hc : ¬ (c = 'e' ∨ c = 'E') := by
        rcases h c rfl with rfl | rfl <;> decide
      exact if_neg hc
  | some power =>
    have htext : powerText (some power) =
        'e' :: (if power < 0 then '-' else '+') :: powerDigits power.natAbs := by
      rw [powerText, DecimalDigits.signedPower, String.toList_ofList]
      rfl
    have hread := exponentDigits_signed h.noDigit (decide (power < 0)) power.natAbs
    have hpower : (if power < 0 then -(power.natAbs : Int) else power.natAbs) = power := by
      split <;> omega
    simp only [decide_eq_true_eq, hpower] at hread
    rw [htext]
    exact hread

namespace WrittenNumber

def unsigned (n : WrittenNumber) : List Char :=
  n.whole ++ (fractionText n.fraction ++ powerText n.exponent)

def text (n : WrittenNumber) : List Char := if n.negative then '-' :: n.unsigned else n.unsigned

/-- A number whose parts are digits, without a needless zero at the front. -/
structure Proper (n : WrittenNumber) : Prop where
  whole : Whole n.whole
  fraction : ∀ c ∈ n.fraction, c.isDigit = true

theorem number_unsigned {n : WrittenNumber} (hn : n.Proper) {rest : List Char} (h : Follows rest) :
    number n.negative (n.unsigned ++ rest) = .ok (.number n, rest) := by
  have hpower := noDigit_powerText h n.exponent
  have hwhole : NoDigit (fractionText n.fraction ++ (powerText n.exponent ++ rest)) := by
    cases n.fraction with
    | nil => exact hpower
    | cons c cs => exact noDigit_cons rfl _
  have hfraction := fractionDigits_append hn.fraction hpower (head?_powerText_ne h _)
  have hexponent := exponentDigits_append h n.exponent
  simp only [number, unsigned, List.append_assoc, wholeDigits_append hn.whole hwhole, bind,
    Except.bind, hfraction, hexponent]
  rfl

end WrittenNumber

end Json

namespace DecimalDigits

open Json

variable {d : DecimalDigits}

theorem text_ne_nil (d : DecimalDigits) : d.text ≠ [] := Nat.toDigits_ne_nil

/-- The parts of the text that stands for decimal digits. -/
def written (negative : Bool) (d : DecimalDigits) : WrittenNumber :=
  if d.order < -5 ∨ 15 < d.order then
    ⟨negative, d.text.take 1, d.text.drop 1, some d.order⟩
  else if 0 ≤ d.exponent then
    ⟨negative, d.text ++ List.replicate d.exponent.toNat '0', ['0'], none⟩
  else
    let places := (-d.exponent).toNat
    if places < d.text.length then
      ⟨negative, d.text.take (d.text.length - places), d.text.drop (d.text.length - places), none⟩
    else ⟨negative, ['0'], List.replicate (places - d.text.length) '0' ++ d.text, none⟩

theorem negative_written (negative : Bool) (d : DecimalDigits) :
    (d.written negative).negative = negative := by
  unfold written
  split
  · rfl
  · split
    · rfl
    · dsimp only
      split <;> rfl

theorem unsigned_written (negative : Bool) (d : DecimalDigits) :
    (d.written negative).unsigned =
      if d.order < -5 ∨ 15 < d.order then d.scientific signedPower
      else if 0 ≤ d.exponent then d.positional ++ ['.', '0']
      else d.positional := by
  unfold written WrittenNumber.unsigned
  split
  · obtain ⟨c, cs, htext⟩ := List.exists_cons_of_ne_nil d.text_ne_nil
    simp only [scientific, htext, List.take_succ_cons, List.take_zero, List.drop_succ_cons,
      List.drop_zero]
    cases cs <;> rfl
  · split
    · rename_i hexponent
      simp only [positional, if_pos hexponent]
      rfl
    · rename_i hexponent
      simp only [positional, if_neg hexponent]
      split
      · rename_i hplaces
        have hdrop : d.text.drop (d.text.length - (-d.exponent).toNat) ≠ [] := by
          rw [ne_eq, List.drop_eq_nil_iff]
          omega
        simp only [fractionText_of_ne_nil hdrop, powerText, List.append_nil]
      · have hne : List.replicate ((-d.exponent).toNat - d.text.length) '0' ++ d.text ≠ [] :=
          List.append_ne_nil_of_right_ne_nil _ d.text_ne_nil
        simp only [fractionText_of_ne_nil hne, powerText, List.append_nil]
        rfl

/-- Digits that are none only if the exponent is none: no zero is written in several places. -/
def Reduced (d : DecimalDigits) : Prop := d.digits ≠ 0 ∨ d.exponent = 0

theorem proper_written (h : d.Reduced) (negative : Bool) : (d.written negative).Proper := by
  have htext : ∀ c ∈ d.text, c.isDigit = true := isDigit_toDigits d.digits
  unfold written
  split
  · obtain ⟨c, cs, hcs⟩ := List.exists_cons_of_ne_nil d.text_ne_nil
    rw [hcs] at htext ⊢
    refine ⟨⟨List.cons_ne_nil _ _, fun e he => htext e (List.mem_of_mem_take he), ?_⟩,
      fun e he => htext e (List.mem_of_mem_drop he)⟩
    rintro ⟨⟩
    rfl
  · split
    · refine ⟨?_, isDigit_replicate 1⟩
      rcases h with hdigits | hexponent
      · refine whole_of_head (List.append_ne_nil_of_left_ne_nil d.text_ne_nil _)
          (isDigit_append htext (isDigit_replicate _)) ?_
        rw [List.head?_append, Option.or_of_isSome (List.isSome_head?.mpr d.text_ne_nil)]
        exact head?_toDigits_ne hdigits
      · simp only [hexponent, Int.toNat_zero, List.replicate_zero, List.append_nil]
        exact whole_toDigits d.digits
    · rename_i hexponent
      have hdigits : d.digits ≠ 0 := h.resolve_right (by omega)
      dsimp only
      split
      · rename_i hplaces
        refine ⟨?_, fun e he => htext e (List.mem_of_mem_drop he)⟩
        have hlength : d.text.length - (-d.exponent).toNat ≠ 0 := by omega
        refine whole_of_head ?_ (fun e he => htext e (List.mem_of_mem_take he)) ?_
        · rw [ne_eq, List.take_eq_nil_iff, not_or]
          exact ⟨hlength, d.text_ne_nil⟩
        · rw [List.head?_take, if_neg hlength]
          exact head?_toDigits_ne hdigits
      · exact ⟨whole_zero, isDigit_append (isDigit_replicate _) htext⟩

theorem digits_strip (h : d.digits ≠ 0) (fuel : Nat) : (strip fuel d).digits ≠ 0 := by
  induction fuel generalizing d with
  | zero => exact h
  | succ fuel ih =>
    rw [strip]
    split
    · refine ih ?_
      dsimp only
      omega
    · exact h

theorem digits_withCount {units count : Nat} (h : withCount units count = some d) :
    d.digits ≠ 0 := by
  unfold withCount at h
  dsimp only at h
  split at h
  · rename_i hlow
    obtain rfl := Option.some.inj h
    exact of_decide_eq_true (Bool.and_eq_true_iff.mp (Bool.and_eq_true_iff.mp hlow).1).1
  · split at h
    · rename_i hhigh
      obtain rfl := Option.some.inj h
      exact Nat.succ_ne_zero _
    · exact nomatch h

theorem reduced_ofUnits (units : Nat) : (ofUnits units).Reduced := by
  unfold ofUnits
  dsimp only
  split
  · rename_i found hfound
    obtain ⟨count, -, hcount⟩ := List.exists_of_findSome?_eq_some hfound
    exact .inl (digits_strip (digits_withCount hcount) 17)
  · exact .inr rfl

end DecimalDigits

namespace Binary64

open Json

/-- The parts of the number that stands for a finite number in a JSON text. -/
def written? : Binary64 → Option WrittenNumber
  | nan => none
  | infinite _ => none
  | finite negative 0 => some ⟨negative, ['0'], ['0'], none⟩
  | finite negative units => some ((DecimalDigits.ofUnits units).written negative)

theorem proper_written {x : Binary64} {n : WrittenNumber} (h : x.written? = some n) : n.Proper := by
  unfold written? at h
  split at h
  · exact nomatch h
  · exact nomatch h
  · obtain rfl := Option.some.inj h
    exact ⟨whole_zero, whole_zero.digits⟩
  · obtain rfl := Option.some.inj h
    exact DecimalDigits.proper_written (DecimalDigits.reduced_ofUnits _) _

theorem json?_eq (x : Binary64) :
    x.json? = x.written?.map fun n => String.ofList n.text := by
  rcases x with _ | _ | ⟨negative, units⟩
  · rfl
  · rfl
  · cases units with
    | zero => cases negative <;> rfl
    | succ units =>
      simp only [json?, written?, Option.map_some, WrittenNumber.text,
        DecimalDigits.negative_written, DecimalDigits.unsigned_written]
      rfl

end Binary64

end TwinCatalogue
