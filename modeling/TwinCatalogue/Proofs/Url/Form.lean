import TwinCatalogue.Proofs.Url.Percent
import TwinCatalogue.Url.Form

/-! The pairs of a query. What is written for them is read back as them, whatever characters their
names and values have. -/

namespace TwinCatalogue.Form

open Percent (digit ofByte)
open Text (utf8OfChars)

variable {c : Char}

/-- In what is read, a plus is a space. -/
def spaced (cs : List Char) : List Char := cs.map fun c => if c = '+' then ' ' else c

theorem decodeText_eq (cs : List Char) : decodeText cs = Percent.decodeText (spaced cs) := rfl

theorem spaced_append (cs ds : List Char) : spaced (cs ++ ds) = spaced cs ++ spaced ds :=
  List.map_append

theorem keeps_digit {n : Nat} (h : n < 16) : keeps (digit n) = true := by
  have hall : ∀ n < 16, keeps (digit n) = true := by decide
  exact hall n h

/-- The characters in which a text is written: none of those that divide a query. -/
def Written (c : Char) : Prop := keeps c = true ∨ c = '+' ∨ c = '%'

theorem Written.ne (h : Written c) : c ≠ '&' ∧ c ≠ '=' := by
  rw [Written] at h
  constructor
  · rintro rfl
    exact absurd h (by decide)
  · rintro rfl
    exact absurd h (by decide)

theorem keeps_of_mem_ofByte {byte : UInt8} (h : c ∈ ofByte byte) : keeps c = true ∨ c = '%' := by
  have hbyte : byte.toNat < 256 := byte.toNat_lt_size
  rw [ofByte, List.mem_cons, List.mem_cons, List.mem_singleton] at h
  rcases h with rfl | rfl | rfl
  · exact .inr rfl
  · exact .inl (keeps_digit (by omega))
  · exact .inl (keeps_digit (by omega))

theorem keeps_of_mem_ofBytes {bytes : List UInt8} (h : c ∈ bytes.flatMap ofByte) :
    keeps c = true ∨ c = '%' := by
  obtain ⟨byte, -, hbyte⟩ := List.mem_flatMap.mp h
  exact keeps_of_mem_ofByte hbyte

theorem encodeChar_of_keeps (h : keeps c = true) : encodeChar c = [c] := by
  have hspace : c ≠ ' ' := by
    rintro rfl
    exact absurd h (by decide)
  rw [encodeChar, if_neg hspace, Percent.encodeChar, if_pos h]

theorem encodeChar_of_not_keeps (h : keeps c = false) (hspace : c ≠ ' ') :
    encodeChar c = (String.utf8EncodeChar c).flatMap ofByte := by
  rw [encodeChar, if_neg hspace, Percent.encodeChar, h, if_neg Bool.false_ne_true]

theorem written_of_mem_encodeText {s : String} (h : c ∈ encodeText s) : Written c := by
  obtain ⟨d, -, hc⟩ := List.mem_flatMap.mp h
  by_cases hd : keeps d = true
  · rw [encodeChar_of_keeps hd, List.mem_singleton] at hc
    exact .inl (hc ▸ hd)
  · by_cases hspace : d = ' '
    · rw [encodeChar, if_pos hspace, List.mem_singleton] at hc
      exact .inr (.inl hc)
    · rw [encodeChar_of_not_keeps (Bool.eq_false_iff.mpr hd) hspace] at hc
      exact (keeps_of_mem_ofBytes hc).imp_right .inr

theorem spaced_eq_self {cs : List Char} (h : ∀ c ∈ cs, c ≠ '+') : spaced cs = cs := by
  rw [spaced]
  refine (List.map_congr_left fun c hc => ?_).trans (List.map_id cs)
  rw [if_neg (h c hc), id]

/-- A character that was written is read back, as its bytes. -/
theorem decode_encodeChar (c : Char) (rest : List Char) :
    Percent.decode (spaced (encodeChar c) ++ rest) =
      String.utf8EncodeChar c ++ Percent.decode rest := by
  by_cases hc : keeps c = true
  · have hne : c ≠ '+' ∧ c ≠ '%' := by
      constructor
      · rintro rfl
        exact absurd hc (by decide)
      · rintro rfl
        exact absurd hc (by decide)
    have hself : spaced [c] = [c] := spaced_eq_self fun d hd => by
      rw [List.mem_singleton.mp hd]
      exact hne.1
    rw [encodeChar_of_keeps hc, hself, List.singleton_append,
      Percent.decode_cons fun h => absurd h hne.2]
  · by_cases hspace : c = ' '
    · subst hspace
      exact Percent.decode_cons fun h => absurd h (by decide)
    · have hself : spaced ((String.utf8EncodeChar c).flatMap ofByte) =
          (String.utf8EncodeChar c).flatMap ofByte := by
        refine spaced_eq_self fun d hd => ?_
        rintro rfl
        exact absurd (keeps_of_mem_ofBytes hd) (by decide)
      rw [encodeChar_of_not_keeps (Bool.eq_false_iff.mpr hc) hspace, hself, Percent.decode_ofBytes]

theorem decode_spaced_encode (cs : List Char) :
    Percent.decode (spaced (cs.flatMap encodeChar)) = utf8OfChars cs := by
  induction cs with
  | nil => rfl
  | cons c rest ih =>
    rw [List.flatMap_cons, spaced_append, decode_encodeChar, ih, Text.utf8OfChars_cons]

theorem decodeText_encodeText (s : String) : decodeText (encodeText s) = s := by
  rw [decodeText_eq, encodeText, Percent.decodeText, decode_spaced_encode,
    Text.ofUtf8Lenient_utf8OfChars, String.ofList_toList]

theorem decodePair_encodePair (pair : String × String) : decodePair (encodePair pair) = pair := by
  have hname : ∀ c ∈ encodeText pair.1, (c != '=') = true := fun c hc => by
    simpa using (written_of_mem_encodeText hc).ne.2
  rw [decodePair, encodePair, List.takeWhile_append_of_pos hname, List.dropWhile_append_of_pos hname]
  simp [decodeText_encodeText]

theorem not_mem_encodePair (pair : String × String) : '&' ∉ encodePair pair := by
  intro h
  rcases List.mem_append.mp h with h | h
  · exact (written_of_mem_encodeText h).ne.1 rfl
  · rcases List.mem_cons.mp h with h | h
    · exact absurd h (by decide)
    · exact (written_of_mem_encodeText h).ne.1 rfl

theorem encodePair_isEmpty (pair : String × String) : (encodePair pair).isEmpty = false := by
  simp [encodePair]

theorem decode_encodePair (pair : String × String) : decode (encodePair pair) = [pair] := by
  rw [decode, List.splitOn_eq_singleton (not_mem_encodePair pair)]
  simp [encodePair_isEmpty, decodePair_encodePair]

theorem decode_append_cons (cs ds : List Char) :
    decode (cs ++ '&' :: ds) = decode cs ++ decode ds := by
  rw [decode, List.splitOn_append_cons_self, List.filter_append, List.map_append, decode, decode]

/-- Pairs that were written are read back. -/
theorem decode_encode (pairs : List (String × String)) : decode (encode pairs) = pairs := by
  induction pairs with
  | nil => rfl
  | cons pair rest ih =>
    cases rest with
    | nil => rw [encode, decode_encodePair]
    | cons next rest =>
      rw [encode, decode_append_cons, decode_encodePair, ih, List.singleton_append]
      exact nofun

end TwinCatalogue.Form
