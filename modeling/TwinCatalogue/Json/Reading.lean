import TwinCatalogue.Json.Basic
import TwinCatalogue.Json.Written
import TwinCatalogue.Number.Decimal
import TwinCatalogue.Text.Utf8

/-!
The value that a JSON text stands for. Escapes in strings pair up to characters, whole numbers
keep their value while they fit into 64 bits, and of members with one key the last counts.
-/

namespace TwinCatalogue.Json

def isHighUnit (n : Nat) : Bool := 0xD800 ≤ n && n ≤ 0xDBFF

def isLowUnit (n : Nat) : Bool := 0xDC00 ≤ n && n ≤ 0xDFFF

/-- The characters of a string as written; a unit of a pair that stands alone makes it no text. -/
def charsOf? : List Piece → Option (List Char)
  | [] => some []
  | .char c :: rest => (charsOf? rest).map (c :: ·)
  | .unit high :: .unit low :: rest =>
    if isHighUnit high then
      if isLowUnit low then
        let n := 0x10000 + (high - 0xD800) * 0x400 + (low - 0xDC00)
        (charsOf? rest).map (Char.ofNat n :: ·)
      else none
    else if isLowUnit high then none
    else (charsOf? (.unit low :: rest)).map (Char.ofNat high :: ·)
  | .unit n :: rest =>
    if isHighUnit n || isLowUnit n then none else (charsOf? rest).map (Char.ofNat n :: ·)

def textOf? (pieces : List Piece) : Option String := (charsOf? pieces).map String.ofList

/-- A number as a value: whole if it is written so and fits into 64 bits, signed if it has a
sign. Nothing is the answer beyond the finite double precision numbers. -/
def ofNumber (n : WrittenNumber) : Option Json :=
  let whole := Decimal.ofDigits n.whole
  let fits := if n.negative then whole ≠ 0 && whole ≤ Nat.pow 2 63 else whole < Nat.pow 2 64
  if n.fraction.isEmpty && n.exponent.isNone && fits then
    some (.integer (if n.negative then -(whole : Int) else whole))
  else
    (Decimal.scaled n.negative n.whole n.fraction (n.exponent.getD 0)).map .decimal

mutual

/-- The value of a text as written, with at most `depth` arrays and objects around each other. -/
def ofWritten (depth : Nat) : Written → Except Fault Json
  | .null => .ok .null
  | .bool b => .ok (.bool b)
  | .number n =>
    match ofNumber n with
    | none => .error .numberOutOfRange
    | some v => .ok v
  | .string found =>
    match textOf? found with
    | none => .error .loneSurrogate
    | some s => .ok (.string s)
  | .array found =>
    match depth with
    | 0 => .error .tooDeep
    | depth + 1 => do return .array (← itemsOfWritten depth found)
  | .object found =>
    match depth with
    | 0 => .error .tooDeep
    | depth + 1 => do
      return (Document.ofMembers (← membersOfWritten depth found)).toJson

def itemsOfWritten (depth : Nat) : List Written → Except Fault (List Json)
  | [] => .ok []
  | w :: rest => do
    let v ← ofWritten depth w
    return v :: (← itemsOfWritten depth rest)

def membersOfWritten (depth : Nat) : List (List Piece × Written) → Except Fault (List (String × Json))
  | [] => .ok []
  | (key, w) :: rest =>
    match textOf? key with
    | none => .error .loneSurrogate
    | some key => do
      let v ← ofWritten depth w
      return (key, v) :: (← membersOfWritten depth rest)

end

/-- Why a text is no JSON value, and how many of its characters come before the fault. -/
structure ReadError where
  fault : Fault
  line : Nat
  column : Nat
  deriving DecidableEq, Repr

def ReadError.message (e : ReadError) : String :=
  e.fault.wording ++ " at line " ++ toString e.line ++ " column " ++ toString e.column

def ReadError.after (fault : Fault) (before : List Char) : ReadError :=
  let lastLine := (before.reverse.takeWhile (· != '\n')).reverse
  { fault := fault
    line := 1 + (before.filter (· == '\n')).length
    column := (Text.utf8 (String.ofList lastLine)).length }

/-- What is behind the closing quote of a string, unless a unit of a pair stands alone before it.
After the first unit of a pair the second one is `pending`. Escapes that the grammar does not have
are not looked into. -/
def pairedUnits (pending : Bool) : List Char → Except Stop (List Char)
  | '\\' :: 'u' :: a :: b :: c :: d :: cs =>
    match unitEscape a b c d with
    | none => .ok []
    | some n =>
      if isLowUnit n = pending then pairedUnits (isHighUnit n) cs
      else .error (.loneSurrogate, d :: cs)
  | '\\' :: 'u' :: _ => .ok []
  | '\\' :: c :: cs => if pending then .error (.endOfPair, c :: cs) else pairedUnits false cs
  | ['\\'] => .ok []
  | c :: cs =>
    if pending then .error (.endOfPair, c :: cs)
    else if c = '"' then .ok cs
    else pairedUnits false cs
  | [] => .ok []

/-- What is behind an exponent, or already behind the digit with which it outgrows 32 bits. -/
def exponentEnd (n : Nat) : List Char → List Char
  | [] => []
  | c :: cs =>
    if c.isDigit then
      let n := n * 10 + (c.toNat - '0'.toNat)
      if Nat.pow 2 31 ≤ n then cs else exponentEnd n cs
    else c :: cs

/-- What is behind the part of a number that is read before it turns out to be out of range. -/
def numberEnd (cs : List Char) : List Char :=
  match cs.dropWhile fun c => c.isDigit || c == '.' with
  | [] => []
  | c :: rest =>
    if c = 'e' ∨ c = 'E' then exponentEnd 0 (rest.dropWhile fun c => c == '+' || c == '-')
    else c :: rest

/-- The first part of a text that no value can have, in so far as the text is written as values
are. Each call takes a character, so that the length bounds their number. -/
def unfit? : Nat → Nat → List Char → Option Stop
  | 0, _, _ => none
  | _ + 1, _, [] => none
  | fuel + 1, depth, c :: cs =>
    if c = '"' then
      match pairedUnits false cs with
      | .error stop => some stop
      | .ok rest => unfit? fuel depth rest
    else if c = '[' ∨ c = '{' then
      match depth with
      | 0 => some (.tooDeep, c :: cs)
      | depth + 1 => unfit? fuel depth cs
    else if c = ']' ∨ c = '}' then unfit? fuel (depth + 1) cs
    else if c.isDigit then
      match number false (c :: cs) with
      | .ok (.number n, rest) =>
        if (ofNumber n).isSome then unfit? fuel depth rest
        else some (.numberOutOfRange, (c :: cs).drop (cs.length - (numberEnd (c :: cs)).length))
      | _ => none
    else unfit? fuel depth cs

/-- The one of two faults that a reader meets first. A pair of units breaks off before the
character is looked at for itself. -/
def earlier (unfit : Option Stop) (stop : Stop) : Stop :=
  match unfit with
  | none => stop
  | some found =>
    if stop.2.length < found.2.length ∨ found.1 = .endOfPair ∧ stop.2.length = found.2.length then
      found
    else stop

def ReadError.ofStop (cs : List Char) (stop : Stop) : ReadError :=
  .after stop.1 (cs.take (cs.length - stop.2.length + 1))

/-- The greatest number of arrays and objects around each other that a text may have. -/
def depthLimit : Nat := 127

/-- The value of a text. A reader checks values as it goes, so a fault of a value is the first one
if it stands before the text leaves the grammar. -/
def parseWithin (depth : Nat) (text : String) : Except ReadError Json :=
  let cs := text.toList
  let unfit := unfit? cs.length depth cs
  match Written.ofChars cs with
  | .error stop => .error (.ofStop cs (earlier unfit stop))
  | .ok w =>
    match ofWritten depth w with
    | .error fault => .error (.ofStop cs (unfit.getD (fault, [])))
    | .ok v => .ok v

def parse (text : String) : Except ReadError Json := parseWithin depthLimit text

end TwinCatalogue.Json
