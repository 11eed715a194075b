import TwinCatalogue.Text.Blank
import TwinCatalogue.Text.Utf8

/-!
Text in a character set that is named beside it. A byte order mark overrides the name and is not
part of the text; a name that is not known counts as UTF-8.
-/

namespace TwinCatalogue.Text

inductive Charset where
  | utf8
  | windows1252
  | latin9
  | utf16 (littleEndian : Bool)
  deriving DecidableEq, Repr

namespace Charset

/-- The names of the Windows character set of western Europe, those of its subsets among them. -/
def windowsNames : List String :=
  ["windows-1252", "cp1252", "x-cp1252", "iso-8859-1", "iso8859-1", "iso88591", "iso_8859-1",
    "iso_8859-1:1987", "iso-ir-100", "csisolatin1", "latin1", "l1", "cp819", "ibm819", "ascii",
    "us-ascii", "ansi_x3.4-1968"]

def latin9Names : List String :=
  ["iso-8859-15", "iso8859-15", "iso885915", "iso_8859-15", "csisolatin9", "l9"]

def utf16Names : List String :=
  ["utf-16le", "utf-16", "csunicode", "iso-10646-ucs-2", "ucs-2", "unicode", "unicodefeff"]

def ofName (name : String) : Charset :=
  let word := lowerAscii (trim name)
  if windowsNames.contains word then windows1252
  else if latin9Names.contains word then latin9
  else if utf16Names.contains word then utf16 true
  else if ["utf-16be", "unicodefffe"].contains word then utf16 false
  else utf8

def windowsTable : List Nat :=
  [0x20AC, 0x81, 0x201A, 0x192, 0x201E, 0x2026, 0x2020, 0x2021, 0x2C6, 0x2030, 0x160, 0x2039, 0x152,
    0x8D, 0x17D, 0x8F, 0x90, 0x2018, 0x2019, 0x201C, 0x201D, 0x2022, 0x2013, 0x2014, 0x2DC, 0x2122,
    0x161, 0x203A, 0x153, 0x9D, 0x17E, 0x178]

def windowsChar (b : UInt8) : Char :=
  let n := b.toNat
  Char.ofNat (if 0x80 ≤ n ∧ n ≤ 0x9F then windowsTable.getD (n - 0x80) n else n)

/-- The bytes of the Latin character set with the euro sign that stand for other characters than
the code points of the same number. -/
def latin9Table : List (Nat × Nat) :=
  [(0xA4, 0x20AC), (0xA6, 0x160), (0xA8, 0x161), (0xB4, 0x17D), (0xB8, 0x17E), (0xBC, 0x152),
    (0xBD, 0x153), (0xBE, 0x178)]

def latin9Char (b : UInt8) : Char :=
  Char.ofNat ((latin9Table.lookup b.toNat).getD b.toNat)

def units (littleEndian : Bool) : List UInt8 → List (Option Nat)
  | [] => []
  | [_] => [none]
  | a :: b :: rest =>
    some (if littleEndian then b.toNat * 256 + a.toNat else a.toNat * 256 + b.toNat) ::
      units littleEndian rest

/-- The characters of units, with the replacement character for one that stands alone. -/
def ofUnits : List (Option Nat) → List Char
  | [] => []
  | none :: rest => replacement :: ofUnits rest
  | some high :: some low :: rest =>
    if 0xD800 ≤ high ∧ high ≤ 0xDFFF then
      if high ≤ 0xDBFF ∧ 0xDC00 ≤ low ∧ low ≤ 0xDFFF then
        Char.ofNat (0x10000 + (high - 0xD800) * 0x400 + (low - 0xDC00)) :: ofUnits rest
      else replacement :: ofUnits (some low :: rest)
    else Char.ofNat high :: ofUnits (some low :: rest)
  | some n :: rest =>
    (if 0xD800 ≤ n ∧ n ≤ 0xDFFF then replacement else Char.ofNat n) :: ofUnits rest

def decodeIn (charset : Charset) (bytes : List UInt8) : String :=
  match charset with
  | utf8 => ofUtf8Lenient bytes
  | windows1252 => String.ofList (bytes.map windowsChar)
  | latin9 => String.ofList (bytes.map latin9Char)
  | utf16 littleEndian => String.ofList (ofUnits (units littleEndian bytes))

/-- The text of bytes, in the character set of their byte order mark or else the given one. -/
def decode (charset : Charset) : List UInt8 → String
  | 0xEF :: 0xBB :: 0xBF :: rest => decodeIn utf8 rest
  | 0xFF :: 0xFE :: rest => decodeIn (utf16 true) rest
  | 0xFE :: 0xFF :: rest => decodeIn (utf16 false) rest
  | bytes => decodeIn charset bytes

end Charset

end TwinCatalogue.Text
