import Mathlib.Data.List.Infix
import TwinCatalogue.Proofs.Text.Utf8
import TwinCatalogue.Url.Percent

/-! Percent encoding and decoding. A byte that was encoded is decoded again, and encoding changes
nothing for decoding where percent signs and digits stand for themselves; only an escape that is in
the text already is decoded to something else. -/

namespace TwinCatalogue.Percent

open Text (utf8OfChars)

variable {keep : Char → Bool} {cs rest : List Char} {c a b : Char}

theorem digit?_digit {n : Nat} (h : n < 16) : digit? (digit n) = some n := by
  have hall : ∀ n < 16, digit? (digit n) = some n := by decide
  exact hall n h

theorem digit?_percent : digit? '%' = none := by decide

/-- The text begins with the digits of an escape. -/
def Hex (cs : List Char) : Prop :=
  ∃ a b tail, cs = a :: b :: tail ∧ digit? a ≠ none ∧ digit? b ≠ none

/-- There is an escape in the text. -/
def Escapes (cs : List Char) : Prop :=
  ∃ a b, digit? a ≠ none ∧ digit? b ≠ none ∧ ['%', a, b] <:+: cs

theorem not_escapes_nil : ¬ Escapes [] := by
  rintro ⟨a, b, -, -, h⟩
  exact absurd (List.infix_nil.mp h) (List.cons_ne_nil _ _)

theorem escapes_cons : Escapes (c :: rest) ↔ c = '%' ∧ Hex rest ∨ Escapes rest := by
  constructor
  · rintro ⟨a, b, ha, hb, h⟩
    rcases List.infix_cons_iff.mp h with ⟨tail, htail⟩ | h
    · obtain ⟨rfl, hrest⟩ := List.cons.inj htail
      exact .inl ⟨rfl, a, b, tail, hrest.symm, ha, hb⟩
    · exact .inr ⟨a, b, ha, hb, h⟩
  · rintro (⟨rfl, a, b, tail, rfl, ha, hb⟩ | ⟨a, b, ha, hb, h⟩)
    · exact ⟨a, b, ha, hb, List.infix_cons_iff.mpr (.inl (List.prefix_append ['%', a, b] tail))⟩
    · exact ⟨a, b, ha, hb, List.infix_cons_iff.mpr (.inr h)⟩

theorem hex_cons_cons {tail : List Char} :
    Hex (a :: b :: tail) ↔ digit? a ≠ none ∧ digit? b ≠ none := by
  constructor
  · rintro ⟨a', b', tail', htail, ha, hb⟩
    obtain ⟨rfl, rfl, -⟩ : a = a' ∧ b = b' ∧ tail = tail' := by simpa using htail
    exact ⟨ha, hb⟩
  · rintro ⟨ha, hb⟩
    exact ⟨a, b, tail, rfl, ha, hb⟩

instance decidableHex : (cs : List Char) → Decidable (Hex cs)
  | [] => .isFalse (by rintro ⟨a, b, tail, h, -⟩; simp at h)
  | [_] => .isFalse (by rintro ⟨a, b, tail, h, -⟩; simp at h)
  | _ :: _ :: _ => decidable_of_iff _ hex_cons_cons.symm

instance decidableEscapes : (cs : List Char) → Decidable (Escapes cs)
  | [] => .isFalse not_escapes_nil
  | c :: rest =>
    have := decidableEscapes rest
    decidable_of_iff (c = '%' ∧ Hex rest ∨ Escapes rest) escapes_cons.symm

theorem decode_escape {high low : Nat} (ha : digit? a = some high) (hb : digit? b = some low)
    (rest : List Char) :
    decode ('%' :: a :: b :: rest) = UInt8.ofNat (high * 16 + low) :: decode rest := by
  rw [decode, ha, hb]

/-- Every character stands for itself, but a percent sign only if no two digits follow. -/
theorem decode_cons (h : c = '%' → ¬ Hex rest) :
    decode (c :: rest) = String.utf8EncodeChar c ++ decode rest := by
  by_cases hc : c = '%'
  · subst hc
    have hpercent : String.utf8EncodeChar '%' = [37] := by decide
    rw [hpercent]
    match rest, h rfl with
    | [], _ => rfl
    | [_], _ => rfl
    | a :: b :: tail, h =>
      rw [decode]
      cases ha : digit? a with
      | none => rfl
      | some high =>
        cases hb : digit? b with
        | none => rfl
        | some low => exact absurd ⟨a, b, tail, rfl, by simp [ha], by simp [hb]⟩ h
  · rw [decode]
    rintro a b tail rfl
    exact absurd rfl hc

/-- Decoding takes an escape as a whole and everything else character by character. -/
theorem decode_induction {P : List Char → Prop} (nil : P [])
    (escape : ∀ a b rest, digit? a ≠ none → digit? b ≠ none → P rest → P ('%' :: a :: b :: rest))
    (plain : ∀ c rest, (c = '%' → ¬ Hex rest) → P rest → P (c :: rest)) (cs : List Char) : P cs := by
  fun_induction decode cs with
  | case1 a b rest high low hb ha ih => exact escape a b rest (by simp [ha]) (by simp [hb]) ih
  | case2 a b rest hnone ih =>
    refine plain '%' (a :: b :: rest) ?_ ih
    rintro - hhex
    obtain ⟨ha, hb⟩ := hex_cons_cons.mp hhex
    obtain ⟨high, hhigh⟩ := Option.ne_none_iff_exists'.mp ha
    obtain ⟨low, hlow⟩ := Option.ne_none_iff_exists'.mp hb
    exact hnone high low hhigh hlow
  | case3 c rest hother ih =>
    refine plain c rest ?_ ih
    rintro hc ⟨a, b, tail, hrest, -⟩
    exact hother a b tail hc hrest
  | case4 => exact nil

theorem decode_ofByte (byte : UInt8) (rest : List Char) :
    decode (ofByte byte ++ rest) = byte :: decode rest := by
  have hbyte : byte.toNat < 256 := byte.toNat_lt_size
  have hvalue : byte.toNat / 16 * 16 + byte.toNat % 16 = byte.toNat := by omega
  have hhigh : digit? (digit (byte.toNat / 16)) = some (byte.toNat / 16) :=
    digit?_digit (by omega)
  have hlow : digit? (digit (byte.toNat % 16)) = some (byte.toNat % 16) := digit?_digit (by omega)
  have hdecode := decode_escape hhigh hlow rest
  rw [hvalue, UInt8.ofNat_toNat] at hdecode
  exact hdecode

theorem decode_ofBytes (bytes : List UInt8) (rest : List Char) :
    decode (bytes.flatMap ofByte ++ rest) = bytes ++ decode rest := by
  induction bytes with
  | nil => rfl
  | cons byte bytes ih =>
    rw [List.flatMap_cons, List.append_assoc, decode_ofByte, ih, List.cons_append]

theorem encode_cons_of_keep (h : keep c = true) (rest : List Char) :
    encode keep (c :: rest) = c :: encode keep rest := by
  rw [encode, List.flatMap_cons, encodeChar, if_pos h]
  rfl

theorem encode_cons_of_not_keep (h : keep c = false) (rest : List Char) :
    encode keep (c :: rest) = (String.utf8EncodeChar c).flatMap ofByte ++ encode keep rest := by
  rw [encode, List.flatMap_cons, encodeChar, h, if_neg Bool.false_ne_true]
  rfl

theorem encode_eq_self (h : ∀ c ∈ cs, keep c = true) : encode keep cs = cs := by
  induction cs with
  | nil => rfl
  | cons c rest ih =>
    obtain ⟨hc, hrest⟩ := List.forall_mem_cons.mp h
    rw [encode_cons_of_keep hc, ih hrest]

/-- What is encoded begins with a digit only where the text itself does. -/
theorem eq_cons_of_encode_eq_cons {out : List Char} (h : encode keep cs = a :: out)
    (ha : digit? a ≠ none) : ∃ rest, cs = a :: rest ∧ encode keep rest = out := by
  cases cs with
  | nil => exact nomatch h
  | cons c rest =>
    by_cases hc : keep c = true
    · rw [encode_cons_of_keep hc] at h
      obtain ⟨rfl, hout⟩ := List.cons.inj h
      exact ⟨rest, rfl, hout⟩
    · obtain ⟨byte, bytes, hbytes⟩ :=
        List.exists_cons_of_length_pos (Text.length_utf8EncodeChar_pos c)
      rw [encode_cons_of_not_keep (Bool.eq_false_iff.mpr hc), hbytes] at h
      obtain ⟨rfl, -⟩ := List.cons.inj h
      exact absurd digit?_percent ha

theorem hex_of_hex_encode (h : Hex (encode keep cs)) : Hex cs := by
  obtain ⟨a, b, out, hout, ha, hb⟩ := h
  obtain ⟨rest, rfl, hrest⟩ := eq_cons_of_encode_eq_cons hout ha
  obtain ⟨tail, rfl, -⟩ := eq_cons_of_encode_eq_cons hrest hb
  exact ⟨a, b, tail, rfl, ha, hb⟩

/-- Where percent signs and digits stand for themselves, encoding does not show in what is
decoded. -/
theorem decode_encode (hpercent : keep '%' = true) (hdigit : ∀ c, digit? c ≠ none → keep c = true)
    (cs : List Char) : decode (encode keep cs) = decode cs := by
  induction cs using decode_induction with
  | nil => rfl
  | escape a b rest ha hb ih =>
    obtain ⟨high, hhigh⟩ := Option.ne_none_iff_exists'.mp ha
    obtain ⟨low, hlow⟩ := Option.ne_none_iff_exists'.mp hb
    rw [encode_cons_of_keep hpercent, encode_cons_of_keep (hdigit a ha),
      encode_cons_of_keep (hdigit b hb), decode_escape hhigh hlow, decode_escape hhigh hlow, ih]
  | plain c rest hplain ih =>
    rw [decode_cons hplain, ← ih]
    by_cases hc : keep c = true
    · rw [encode_cons_of_keep hc, decode_cons fun h hhex => hplain h (hex_of_hex_encode hhex)]
    · rw [encode_cons_of_not_keep (Bool.eq_false_iff.mpr hc), decode_ofBytes]

theorem decode_eq_utf8OfChars (h : ¬ Escapes cs) : decode cs = utf8OfChars cs := by
  induction cs with
  | nil => rfl
  | cons c rest ih =>
    obtain ⟨hhex, hrest⟩ := not_or.mp (escapes_cons.not.mp h)
    rw [decode_cons fun hc hhex' => hhex ⟨hc, hhex'⟩, ih hrest, Text.utf8OfChars_cons]

/-- An escape makes what is decoded shorter. -/
theorem length_decode (cs : List Char) :
    (decode cs).length ≤ (utf8OfChars cs).length ∧
      (Escapes cs → (decode cs).length < (utf8OfChars cs).length) := by
  induction cs using decode_induction with
  | nil => exact ⟨le_rfl, fun h => absurd h not_escapes_nil⟩
  | escape a b rest ha hb ih =>
    obtain ⟨high, hhigh⟩ := Option.ne_none_iff_exists'.mp ha
    obtain ⟨low, hlow⟩ := Option.ne_none_iff_exists'.mp hb
    have hlt : (decode ('%' :: a :: b :: rest)).length <
        (utf8OfChars ('%' :: a :: b :: rest)).length := by
      have hfirst := Text.length_utf8EncodeChar_pos '%'
      have hsecond := Text.length_utf8EncodeChar_pos a
      have hthird := Text.length_utf8EncodeChar_pos b
      have hrest := ih.1
      rw [decode_escape hhigh hlow, Text.utf8OfChars_cons, Text.utf8OfChars_cons,
        Text.utf8OfChars_cons]
      simp only [List.length_cons, List.length_append]
      omega
    exact ⟨hlt.le, fun _ => hlt⟩
  | plain c rest hplain ih =>
    rw [decode_cons hplain, Text.utf8OfChars_cons, List.length_append, List.length_append,
      escapes_cons]
    refine ⟨Nat.add_le_add_left ih.1 _, ?_⟩
    rintro (⟨hc, hhex⟩ | hescapes)
    · exact absurd hhex (hplain hc)
    · exact Nat.add_lt_add_left (ih.2 hescapes) _

end TwinCatalogue.Percent
