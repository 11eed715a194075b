import Mathlib.Data.List.Flatten
import TwinCatalogue.Text.Utf8

/-! Reading bytes gives back the characters that were written as them. -/

namespace TwinCatalogue.Text

theorem char_range (c : Char) : c.toNat < 0xD800 ∨ 0xDFFF < c.toNat ∧ c.toNat < 0x110000 :=
  c.valid

theorem toNat_ofNat_byte {n : Nat} (h : n < 256) : (UInt8.ofNat n).toNat = n := by
  rw [UInt8.toNat_ofNat']
  exact Nat.mod_eq_of_lt h

theorem continuation_zero (value low high : Nat) (bytes : List UInt8) :
    continuation 0 value low high bytes = (some value, 0) := by
  rw [continuation]

theorem continuation_cons {left value low high v taken : Nat} {b : UInt8} {rest : List UInt8}
    (hlow : low ≤ b.toNat) (hhigh : b.toNat ≤ high)
    (h : continuation left (value * 64 + (b.toNat - 0x80)) 0x80 0xBF rest = (some v, taken)) :
    continuation (left + 1) value low high (b :: rest) = (some v, taken + 1) := by
  rw [continuation, if_pos ⟨hlow, hhigh⟩, h]

theorem readChars_lead {b : UInt8} {following bits low high v taken : Nat} {rest : List UInt8}
    (hb : 0x80 ≤ b.toNat) (hlead : Lead.ofByte? b.toNat = some ⟨following, bits, low, high⟩)
    (h : continuation following bits low high rest = (some v, taken)) :
    readChars (b :: rest) = some (Char.ofNat v) :: readChars (rest.drop taken) := by
  rw [readChars, readChar, if_neg (by omega), hlead]
  simp only [h, Option.map_some]

section Lengths

variable {v : Nat}

theorem toNat_trail (n : Nat) : (UInt8.ofNat (n % 64 + 128)).toNat = n % 64 + 128 :=
  toNat_ofNat_byte (by omega)

theorem readChars_one (h : v ≤ 127) (rest : List UInt8) :
    readChars (UInt8.ofNat v :: rest) = some (Char.ofNat v) :: readChars rest := by
  have hb : (UInt8.ofNat v).toNat = v := toNat_ofNat_byte (by omega)
  rw [readChars, readChar, if_pos (by omega), hb]
  rfl

theorem readChars_two (hlow : 127 < v) (hhigh : v ≤ 2047) (rest : List UInt8) :
    readChars (UInt8.ofNat (v / 64 % 32 + 192) :: UInt8.ofNat (v % 64 + 128) :: rest) =
      some (Char.ofNat v) :: readChars rest := by
  have hmod : v / 64 % 32 = v / 64 := Nat.mod_eq_of_lt (by omega)
  have hb : (UInt8.ofNat (v / 64 + 192)).toNat = v / 64 + 192 := toNat_ofNat_byte (by omega)
  have hlead : Lead.ofByte? (v / 64 + 192) = some ⟨1, v / 64, 0x80, 0xBF⟩ := by
    rw [Lead.ofByte?, if_pos (by omega), Nat.add_sub_cancel]
  have hlast := toNat_trail v
  have hvalue : v / 64 * 64 + (v % 64 + 128 - 128) = v := by omega
  rw [← hb] at hlead
  rw [hmod]
  have htrail : continuation 1 (v / 64) 0x80 0xBF (UInt8.ofNat (v % 64 + 128) :: rest) =
      (some v, 1) := by
    refine continuation_cons (by omega) (by omega) ?_
    rw [hlast, hvalue, continuation_zero]
  exact readChars_lead (by omega) hlead htrail

/-- The first of three bytes leaves out the long forms of smaller numbers and the surrogates. -/
theorem ofByte?_three (hlow : 0x800 ≤ v) (hhigh : v < 0x10000)
    (hrange : v < 0xD800 ∨ 0xDFFF < v) :
    ∃ low high, Lead.ofByte? (v / 4096 + 224) = some ⟨2, v / 4096, low, high⟩ ∧
      low ≤ v / 64 % 64 + 128 ∧ v / 64 % 64 + 128 ≤ high := by
  rw [Lead.ofByte?, if_neg (by omega)]
  by_cases hfirst : v / 4096 = 0
  · rw [if_pos (by omega), hfirst]
    exact ⟨0xA0, 0xBF, rfl, by omega, by omega⟩
  · rw [if_neg (by omega)]
    by_cases hsurrogate : v / 4096 = 0xD
    · rw [if_pos (by omega), hsurrogate]
      exact ⟨0x80, 0x9F, rfl, by omega, by omega⟩
    · rw [if_neg (by omega), if_pos (by omega), Nat.add_sub_cancel]
      exact ⟨0x80, 0xBF, rfl, by omega, by omega⟩

theorem readChars_three (hlow : 2047 < v) (hhigh : v ≤ 65535) (hrange : v < 0xD800 ∨ 0xDFFF < v)
    (rest : List UInt8) :
    readChars (UInt8.ofNat (v / 4096 % 16 + 224) :: UInt8.ofNat (v / 64 % 64 + 128) ::
      UInt8.ofNat (v % 64 + 128) :: rest) = some (Char.ofNat v) :: readChars rest := by
  have hmod : v / 4096 % 16 = v / 4096 := Nat.mod_eq_of_lt (by omega)
  have hb : (UInt8.ofNat (v / 4096 + 224)).toNat = v / 4096 + 224 := toNat_ofNat_byte (by omega)
  obtain ⟨low, high, hlead, hsecondLow, hsecondHigh⟩ := ofByte?_three hlow (by omega) hrange
  have hsecond := toNat_trail (v / 64)
  have hlast := toNat_trail v
  have hvalue : (v / 4096 * 64 + (v / 64 % 64 + 128 - 128)) * 64 + (v % 64 + 128 - 128) = v := by
    omega
  rw [← hb] at hlead
  rw [hmod]
  have htrail : continuation 2 (v / 4096) low high
      (UInt8.ofNat (v / 64 % 64 + 128) :: UInt8.ofNat (v % 64 + 128) :: rest) = (some v, 2) := by
    refine continuation_cons (by omega) (by omega) (continuation_cons (by omega) (by omega) ?_)
    rw [hlast, hsecond, hvalue, continuation_zero]
  exact readChars_lead (by omega) hlead htrail

theorem ofByte?_four (hlow : 0x10000 ≤ v) (hhigh : v < 0x110000) :
    ∃ low high, Lead.ofByte? (v / 262144 + 240) = some ⟨3, v / 262144, low, high⟩ ∧
      low ≤ v / 4096 % 64 + 128 ∧ v / 4096 % 64 + 128 ≤ high := by
  rw [Lead.ofByte?, if_neg (by omega), if_neg (by omega), if_neg (by omega), if_neg (by omega)]
  by_cases hfirst : v / 262144 = 0
  · rw [if_pos (by omega), hfirst]
    exact ⟨0x90, 0xBF, rfl, by omega, by omega⟩
  · rw [if_neg (by omega)]
    by_cases hlast : v / 262144 = 4
    · rw [if_neg (by omega), if_pos (by omega), hlast]
      exact ⟨0x80, 0x8F, rfl, by omega, by omega⟩
    · rw [if_pos (by omega), Nat.add_sub_cancel]
      exact ⟨0x80, 0xBF, rfl, by omega, by omega⟩

theorem readChars_four (hlow : 65535 < v) (hhigh : v < 0x110000) (rest : List UInt8) :
    readChars (UInt8.ofNat (v / 262144 % 8 + 240) :: UInt8.ofNat (v / 4096 % 64 + 128) ::
      UInt8.ofNat (v / 64 % 64 + 128) :: UInt8.ofNat (v % 64 + 128) :: rest) =
      some (Char.ofNat v) :: readChars rest := by
  have hmod : v / 262144 % 8 = v / 262144 := Nat.mod_eq_of_lt (by omega)
  have hb : (UInt8.ofNat (v / 262144 + 240)).toNat = v / 262144 + 240 :=
    toNat_ofNat_byte (by omega)
  obtain ⟨low, high, hlead, hsecondLow, hsecondHigh⟩ := ofByte?_four hlow hhigh
  have hsecond := toNat_trail (v / 4096)
  have hthird := toNat_trail (v / 64)
  have hlast := toNat_trail v
  have hvalue : ((v / 262144 * 64 + (v / 4096 % 64 + 128 - 128)) * 64 +
      (v / 64 % 64 + 128 - 128)) * 64 + (v % 64 + 128 - 128) = v := by
    omega
  rw [← hb] at hlead
  rw [hmod]
  have htrail : continuation 3 (v / 262144) low high (UInt8.ofNat (v / 4096 % 64 + 128) ::
      UInt8.ofNat (v / 64 % 64 + 128) :: UInt8.ofNat (v % 64 + 128) :: rest) = (some v, 3) := by
    refine continuation_cons (by omega) (by omega) (continuation_cons (by omega) (by omega)
      (continuation_cons (by omega) (by omega) ?_))
    rw [hlast, hthird, hsecond, hvalue, continuation_zero]
  exact readChars_lead (by omega) hlead htrail

end Lengths

theorem readChars_utf8EncodeChar (c : Char) (rest : List UInt8) :
    readChars (String.utf8EncodeChar c ++ rest) = some c :: readChars rest := by
  have hrange := char_range c
  have hc : some (Char.ofNat c.toNat) :: readChars rest = some c :: readChars rest := by
    rw [Char.ofNat_toNat]
  have hval : c.val.toNat = c.toNat := rfl
  rw [String.utf8EncodeChar, hval, ← hc]
  by_cases hone : c.toNat ≤ 127
  · rw [if_pos hone]
    exact readChars_one hone rest
  · by_cases htwo : c.toNat ≤ 2047
    · rw [if_neg hone, if_pos htwo]
      exact readChars_two (by omega) htwo rest
    · by_cases hthree : c.toNat ≤ 65535
      · rw [if_neg hone, if_neg htwo, if_pos hthree]
        exact readChars_three (by omega) hthree (by omega) rest
      · rw [if_neg hone, if_neg htwo, if_neg hthree]
        exact readChars_four (by omega) (by omega) rest

theorem utf8OfChars_cons (c : Char) (rest : List Char) :
    utf8OfChars (c :: rest) = String.utf8EncodeChar c ++ utf8OfChars rest :=
  List.flatMap_cons

theorem length_utf8EncodeChar_pos (c : Char) : 0 < (String.utf8EncodeChar c).length := by
  rw [String.length_utf8EncodeChar]
  exact c.utf8Size_pos

theorem readChars_utf8OfChars (cs : List Char) : readChars (utf8OfChars cs) = cs.map some := by
  induction cs with
  | nil => rw [utf8OfChars, List.flatMap_nil, readChars, List.map_nil]
  | cons c rest ih =>
    rw [utf8OfChars_cons, readChars_utf8EncodeChar, ih, List.map_cons]

@[simp] theorem ofUtf8Lenient_utf8OfChars (cs : List Char) :
    ofUtf8Lenient (utf8OfChars cs) = String.ofList cs := by
  have hread : (cs.map some).map (·.getD replacement) = cs := by simp [Function.comp_def]
  rw [ofUtf8Lenient, readChars_utf8OfChars, hread]

theorem utf8OfChars_injective {cs ds : List Char} (h : utf8OfChars cs = utf8OfChars ds) :
    cs = ds := by
  have hread := congrArg ofUtf8Lenient h
  rw [ofUtf8Lenient_utf8OfChars, ofUtf8Lenient_utf8OfChars] at hread
  exact String.ofList_injective hread

/-- A part of a text has fewer bytes, if it is not the whole text. -/
theorem eq_of_sublist_of_length_utf8OfChars {cs ds : List Char} (h : cs.Sublist ds)
    (hlength : (utf8OfChars ds).length ≤ (utf8OfChars cs).length) : cs = ds := by
  have hcount : ∀ {cs ds : List Char}, cs.Sublist ds →
      (utf8OfChars cs).length ≤ (utf8OfChars ds).length := fun h => (h.flatMap _).length_le
  induction h with
  | slnil => rfl
  | cons c h ih =>
    rw [utf8OfChars_cons, List.length_append] at hlength
    have hpos := length_utf8EncodeChar_pos c
    have hle := hcount h
    omega
  | cons_cons c h ih =>
    rw [utf8OfChars_cons, utf8OfChars_cons, List.length_append, List.length_append] at hlength
    rw [ih (by omega)]

end TwinCatalogue.Text
