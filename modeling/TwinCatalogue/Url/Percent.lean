import TwinCatalogue.Text.Utf8

/-!
Percent encoding: characters outside a class are written as their bytes in UTF-8, each as a
percent sign and two hexadecimal digits. Decoding accepts any case of the digits and leaves a
percent sign alone that no two digits follow.
-/

namespace TwinCatalogue.Percent

def digit (n : Nat) : Char := if n < 10 then Char.ofNat (48 + n) else Char.ofNat (55 + n)

def digit? (c : Char) : Option Nat :=
  let n := c.toNat
  if 48 ≤ n ∧ n ≤ 57 then some (n - 48)
  else if 65 ≤ n ∧ n ≤ 70 then some (n - 55)
  else if 97 ≤ n ∧ n ≤ 102 then some (n - 87)
  else none

def ofByte (b : UInt8) : List Char := ['%', digit (b.toNat / 16), digit (b.toNat % 16)]

def encodeChar (keep : Char → Bool) (c : Char) : List Char :=
  if keep c then [c] else (String.utf8EncodeChar c).flatMap ofByte

def encode (keep : Char → Bool) (cs : List Char) : List Char := cs.flatMap (encodeChar keep)

def decode : List Char → List UInt8
  | '%' :: a :: b :: rest =>
    match digit? a, digit? b with
    | some high, some low => UInt8.ofNat (high * 16 + low) :: decode rest
    | _, _ => 37 :: decode (a :: b :: rest)
  | c :: rest => String.utf8EncodeChar c ++ decode rest
  | [] => []

def decodeText (cs : List Char) : String := Text.ofUtf8Lenient (decode cs)

end TwinCatalogue.Percent
