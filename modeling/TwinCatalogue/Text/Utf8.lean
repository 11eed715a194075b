/-!
Text from bytes. Strict reading refuses bytes that are not UTF-8; lenient reading puts the
replacement character for each longest beginning of a character that goes no further.
-/

namespace TwinCatalogue.Text

def replacement : Char := Char.ofNat 0xFFFD

/-- What a first byte of several announces: the number of bytes to follow, its own bits, and
the bounds of the second byte, which rule out long forms, surrogates and too large numbers. -/
structure Lead where
  following : Nat
  bits : Nat
  secondMin : Nat
  secondMax : Nat

def Lead.ofByte? (b : Nat) : Option Lead :=
  if 0xC2 ≤ b ∧ b ≤ 0xDF then some ⟨1, b - 0xC0, 0x80, 0xBF⟩
  else if b = 0xE0 then some ⟨2, 0, 0xA0, 0xBF⟩
  else if b = 0xED then some ⟨2, 0xD, 0x80, 0x9F⟩
  else if 0xE1 ≤ b ∧ b ≤ 0xEF then some ⟨2, b - 0xE0, 0x80, 0xBF⟩
  else if b = 0xF0 then some ⟨3, 0, 0x90, 0xBF⟩
  else if 0xF1 ≤ b ∧ b ≤ 0xF3 then some ⟨3, b - 0xF0, 0x80, 0xBF⟩
  else if b = 0xF4 then some ⟨3, 4, 0x80, 0x8F⟩
  else none

/-- Takes the bytes that continue a character, the next one within the given bounds. The
result is the finished number, or nothing, and how many bytes were taken. -/
def continuation (left value low high : Nat) : List UInt8 → Option Nat × Nat
  | bytes =>
    match left, bytes with
    | 0, _ => (some value, 0)
    | _ + 1, [] => (none, 0)
    | n + 1, b :: rest =>
      if low ≤ b.toNat ∧ b.toNat ≤ high then
        let (result, taken) := continuation n (value * 64 + (b.toNat - 0x80)) 0x80 0xBF rest
        (result, taken + 1)
      else (none, 0)

/-- One step of reading: a character or nothing, and how many bytes after the first belong to
the step. -/
def readChar (b : UInt8) (rest : List UInt8) : Option Char × Nat :=
  if b.toNat < 0x80 then (some (Char.ofNat b.toNat), 0)
  else
    match Lead.ofByte? b.toNat with
    | none => (none, 0)
    | some lead =>
      let (value, taken) := continuation lead.following lead.bits lead.secondMin lead.secondMax rest
      (value.map Char.ofNat, taken)

/-- The characters that bytes hold, with nothing for each part that is no character. -/
def readChars : List UInt8 → List (Option Char)
  | [] => []
  | b :: rest =>
    let (c, taken) := readChar b rest
    c :: readChars (rest.drop taken)
termination_by bytes => bytes.length
decreasing_by simp only [List.length_drop, List.length_cons]; omega

def ofUtf8? (bytes : List UInt8) : Option String :=
  ((readChars bytes).mapM id).map String.ofList

def ofUtf8Lenient (bytes : List UInt8) : String :=
  String.ofList ((readChars bytes).map (·.getD replacement))

def utf8OfChars (cs : List Char) : List UInt8 :=
  cs.flatMap String.utf8EncodeChar

def utf8 (s : String) : List UInt8 :=
  utf8OfChars s.toList

end TwinCatalogue.Text
