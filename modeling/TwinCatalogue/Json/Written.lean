/-!
JSON as it is written: a tree that keeps every member of an object in its place, the digits of
numbers and the escapes of strings. Texts are checked against the grammar alone here; what the
tree means, and what of it is acceptable, is decided by whoever reads it.
-/

namespace TwinCatalogue.Json

/-- One part of a string: a character, or a four digit escape, which is a UTF-16 unit. -/
inductive Piece where
  | char (c : Char)
  | unit (value : Nat)
  deriving DecidableEq, Repr

/-- A number as written. An absent fraction has no digits. -/
structure WrittenNumber where
  negative : Bool
  whole : List Char
  fraction : List Char
  exponent : Option Int
  deriving DecidableEq, Repr

inductive Written where
  | null
  | bool (value : Bool)
  | number (value : WrittenNumber)
  | string (pieces : List Piece)
  | array (items : List Written)
  | object (members : List (List Piece × Written))
  deriving Repr, Inhabited

inductive Fault where
  | endInList
  | endInObject
  | endInString
  | endInValue
  | endOfPair
  | expectedColon
  | expectedListEnd
  | expectedObjectEnd
  | expectedIdent
  | expectedValue
  | invalidEscape
  | invalidNumber
  | numberOutOfRange
  | controlCharacter
  | keyNotString
  | loneSurrogate
  | trailingComma
  | trailingCharacters
  | tooDeep
  deriving DecidableEq, Repr

def Fault.wording : Fault → String
  | endInList => "EOF while parsing a list"
  | endInObject => "EOF while parsing an object"
  | endInString => "EOF while parsing a string"
  | endInValue => "EOF while parsing a value"
  | endOfPair => "unexpected end of hex escape"
  | expectedColon => "expected `:`"
  | expectedListEnd => "expected `,` or `]`"
  | expectedObjectEnd => "expected `,` or `\x7d`"
  | expectedIdent => "expected ident"
  | expectedValue => "expected value"
  | invalidEscape => "invalid escape"
  | invalidNumber => "invalid number"
  | numberOutOfRange => "number out of range"
  | controlCharacter => "control character (\\u0000-\\u001F) found while parsing a string"
  | keyNotString => "key must be a string"
  | loneSurrogate => "lone leading surrogate in hex escape"
  | trailingComma => "trailing comma"
  | trailingCharacters => "trailing characters"
  | tooDeep => "recursion limit exceeded"

/-- A fault, and the text from the last character on that was looked at to find it. -/
abbrev Stop := Fault × List Char

def isSpace (c : Char) : Bool := c == ' ' || c == '\n' || c == '\t' || c == '\r'

def skipSpace (cs : List Char) : List Char := cs.dropWhile isSpace

def word (w : Written) : List Char → List Char → Except Stop (Written × List Char)
  | [], cs => .ok (w, cs)
  | _ :: _, [] => .error (.endInValue, [])
  | c :: expected, d :: cs => if c = d then word w expected cs else .error (.expectedIdent, d :: cs)

def hexDigit? (c : Char) : Option Nat :=
  if '0' ≤ c ∧ c ≤ '9' then some (c.toNat - '0'.toNat)
  else if 'a' ≤ c ∧ c ≤ 'f' then some (c.toNat - 'a'.toNat + 10)
  else if 'A' ≤ c ∧ c ≤ 'F' then some (c.toNat - 'A'.toNat + 10)
  else none

def unitEscape (a b c d : Char) : Option Nat := do
  let a ← hexDigit? a
  let b ← hexDigit? b
  let c ← hexDigit? c
  let d ← hexDigit? d
  return ((a * 16 + b) * 16 + c) * 16 + d

def letterEscape? (c : Char) : Option Char :=
  if c = '"' ∨ c = '\\' ∨ c = '/' then some c
  else if c = 'b' then some '\x08'
  else if c = 'f' then some '\x0c'
  else if c = 'n' then some '\n'
  else if c = 'r' then some '\r'
  else if c = 't' then some '\t'
  else none

def pieces : List Char → Except Stop (List Piece × List Char)
  | [] => .error (.endInString, [])
  | '"' :: cs => .ok ([], cs)
  | '\\' :: 'u' :: a :: b :: c :: d :: cs =>
    match unitEscape a b c d with
    | none => .error (.invalidEscape, d :: cs)
    | some value => do
      let (rest, cs) ← pieces cs
      return (.unit value :: rest, cs)
  | '\\' :: c :: cs =>
    match letterEscape? c with
    | none => .error (if c = 'u' then (.endInString, []) else (.invalidEscape, c :: cs))
    | some e => do
      let (rest, cs) ← pieces cs
      return (.char e :: rest, cs)
  | c :: cs =>
    if c.toNat < 32 then .error (.controlCharacter, c :: cs)
    else do
      let (rest, cs) ← pieces cs
      return (.char c :: rest, cs)

def digits (cs : List Char) : List Char × List Char :=
  (cs.takeWhile Char.isDigit, cs.dropWhile Char.isDigit)

def someDigits (cs : List Char) : Except Stop (List Char × List Char) :=
  match digits cs with
  | ([], []) => .error (.endInValue, [])
  | ([], rest) => .error (.invalidNumber, rest)
  | found => .ok found

def wholeDigits : List Char → Except Stop (List Char × List Char)
  | '0' :: c :: cs => if c.isDigit then .error (.invalidNumber, c :: cs) else .ok (['0'], c :: cs)
  | cs => someDigits cs

def fractionDigits : List Char → Except Stop (List Char × List Char)
  | '.' :: cs => someDigits cs
  | cs => .ok ([], cs)

def exponentDigits (cs : List Char) : Except Stop (Option Int × List Char) :=
  match cs with
  | c :: cs' =>
    if c = 'e' ∨ c = 'E' then do
      let (negative, cs') :=
        match cs' with
        | '+' :: cs' => (false, cs')
        | '-' :: cs' => (true, cs')
        | cs' => (false, cs')
      let (found, rest) ← someDigits cs'
      let n : Nat := found.foldl (fun n c => n * 10 + (c.toNat - '0'.toNat)) 0
      return (some (if negative then -(n : Int) else n), rest)
    else .ok (none, cs)
  | [] => .ok (none, [])

def number (negative : Bool) (cs : List Char) : Except Stop (Written × List Char) := do
  let (whole, cs) ← wholeDigits cs
  let (fraction, cs) ← fractionDigits cs
  let (exponent, cs) ← exponentDigits cs
  return (.number ⟨negative, whole, fraction, exponent⟩, cs)

mutual

def value : Nat → List Char → Except Stop (Written × List Char)
  | 0, cs => .error (.tooDeep, cs)
  | fuel + 1, cs =>
    match skipSpace cs with
    | [] => .error (.endInValue, [])
    | 'n' :: cs => word .null ['u', 'l', 'l'] cs
    | 't' :: cs => word (.bool true) ['r', 'u', 'e'] cs
    | 'f' :: cs => word (.bool false) ['a', 'l', 's', 'e'] cs
    | '-' :: cs => number true cs
    | '"' :: cs => do
      let (found, cs) ← pieces cs
      return (.string found, cs)
    | '[' :: cs =>
      match skipSpace cs with
      | ']' :: cs => .ok (.array [], cs)
      | [] => .error (.endInList, [])
      | cs => do
        let (found, cs) ← items fuel cs
        return (.array found, cs)
    | '{' :: cs =>
      match skipSpace cs with
      | '}' :: cs => .ok (.object [], cs)
      | [] => .error (.endInObject, [])
      | cs => do
        let (found, cs) ← members fuel cs
        return (.object found, cs)
    | c :: cs => if c.isDigit then number false (c :: cs) else .error (.expectedValue, c :: cs)

def items : Nat → List Char → Except Stop (List Written × List Char)
  | 0, cs => .error (.tooDeep, cs)
  | fuel + 1, cs => do
    let (first, cs) ← value fuel cs
    match skipSpace cs with
    | ']' :: cs => return ([first], cs)
    | ',' :: cs =>
      match skipSpace cs with
      | ']' :: cs => .error (.trailingComma, ']' :: cs)
      | cs =>
        let (rest, cs) ← items fuel cs
        return (first :: rest, cs)
    | [] => .error (.endInList, [])
    | cs => .error (.expectedListEnd, cs)

def members : Nat → List Char → Except Stop (List (List Piece × Written) × List Char)
  | 0, cs => .error (.tooDeep, cs)
  | fuel + 1, cs =>
    match cs with
    | '"' :: cs => do
      let (key, cs) ← pieces cs
      match skipSpace cs with
      | ':' :: cs =>
        let (first, cs) ← value fuel cs
        match skipSpace cs with
        | '}' :: cs => return ([(key, first)], cs)
        | ',' :: cs =>
          match skipSpace cs with
          | '}' :: cs => .error (.trailingComma, '}' :: cs)
          | [] => .error (.endInValue, [])
          | cs =>
            let (rest, cs) ← members fuel cs
            return ((key, first) :: rest, cs)
        | [] => .error (.endInObject, [])
        | cs => .error (.expectedObjectEnd, cs)
      | [] => .error (.endInObject, [])
      | cs => .error (.expectedColon, cs)
    | cs => .error (.keyNotString, cs)

end

/-- The whole text as one value. Every call takes a character or closes a bracket, so that
twice the length bounds the depth of the calls. -/
def Written.ofChars (cs : List Char) : Except Stop Written :=
  match value (2 * cs.length + 2) cs with
  | .error e => .error e
  | .ok (found, rest) =>
    match skipSpace rest with
    | [] => .ok found
    | rest => .error (.trailingCharacters, rest)

end TwinCatalogue.Json
