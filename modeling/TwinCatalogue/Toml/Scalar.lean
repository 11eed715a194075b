import TwinCatalogue.Number.Decimal
import TwinCatalogue.Toml.Token
import TwinCatalogue.Toml.Value

/-!
Numbers, dates and times of TOML.
-/

namespace TwinCatalogue.Toml

def digitsTail (base : Nat) : List Char → List Char × List Char
  | '_' :: c :: cs =>
    if (digit? base c).isSome then
      let (found, rest) := digitsTail base cs
      (c :: found, rest)
    else ([], '_' :: c :: cs)
  | c :: cs =>
    if (digit? base c).isSome then
      let (found, rest) := digitsTail base cs
      (c :: found, rest)
    else ([], c :: cs)
  | [] => ([], [])

def digits (base : Nat) : List Char → Option (List Char × List Char)
  | c :: cs =>
    if (digit? base c).isSome then
      let (found, rest) := digitsTail base cs
      some (c :: found, rest)
    else none
  | [] => none

def wholeDigits : List Char → Option (List Char × List Char)
  | '0' :: cs => some (['0'], cs)
  | cs => digits 10 cs

def sign : List Char → Bool × List Char
  | '+' :: cs => (false, cs)
  | '-' :: cs => (true, cs)
  | cs => (false, cs)

def numberOf (base : Nat) (found : List Char) : Nat :=
  found.foldl (fun n c => n * base + (digit? base c).getD 0) 0

def fitting (n : Int) : Option Int :=
  if -0x8000000000000000 ≤ n ∧ n < 0x8000000000000000 then some n else none

def integer (cs : List Char) : Option (Value × List Char) := do
  let (n, rest) : Int × List Char ←
    match cs with
    | '0' :: 'x' :: cs => (digits 16 cs).map fun (found, rest) => ((numberOf 16 found : Int), rest)
    | '0' :: 'o' :: cs => (digits 8 cs).map fun (found, rest) => ((numberOf 8 found : Int), rest)
    | '0' :: 'b' :: cs => (digits 2 cs).map fun (found, rest) => ((numberOf 2 found : Int), rest)
    | cs =>
      let (negative, cs) := sign cs
      (wholeDigits cs).map fun (found, rest) =>
        (if negative then -(numberOf 10 found : Int) else numberOf 10 found, rest)
  let n ← fitting n
  return (.integer n, rest)

def exponent? (cs : List Char) : Option (Option (Int × List Char)) :=
  match cs with
  | c :: cs =>
    if c = 'e' ∨ c = 'E' then
      let (negative, cs) := sign cs
      some ((digits 10 cs).map fun (found, rest) =>
        (if negative then -(numberOf 10 found : Int) else numberOf 10 found, rest))
    else none
  | [] => none

/-- A number with a fraction, an exponent or both. A positive one that is too large for double
precision is refused. -/
def finiteFloat (cs : List Char) : Option (Value × List Char) := do
  let (negative, cs) := sign cs
  let (whole, cs) ← wholeDigits cs
  let (fraction, cs) ←
    match cs with
    | '.' :: cs => digits 10 cs
    | cs => if (exponent? cs).isSome then some ([], cs) else none
  let (power, cs) ← (exponent? cs).getD (some (0, cs))
  let x := Decimal.nearest negative (numberOf 10 (whole ++ fraction)) (power - fraction.length)
  if x = .infinite false then none else return (.float x, cs)

def namedFloat (cs : List Char) : Option (Value × List Char) :=
  match sign cs with
  | (negative, 'i' :: 'n' :: 'f' :: cs) => some (.float (.infinite negative), cs)
  | (_, 'n' :: 'a' :: 'n' :: cs) => some (.float .nan, cs)
  | _ => none

def digitsBetween (count low high : Nat) (cs : List Char) : Option (Nat × List Char) :=
  let found := cs.take count
  if found.length = count ∧ found.all Char.isDigit then
    let n := numberOf 10 found
    if low ≤ n ∧ n ≤ high then some (n, cs.drop count) else none
  else none

def expect (c : Char) : List Char → Option (List Char)
  | d :: cs => if c = d then some cs else none
  | [] => none

def daysIn (year month : Nat) : Nat :=
  if month = 2 then
    if year % 4 = 0 ∧ (year % 100 ≠ 0 ∨ year % 400 = 0) then 29 else 28
  else if month = 4 ∨ month = 6 ∨ month = 9 ∨ month = 11 then 30
  else 31

def date (cs : List Char) : Option (List Char) := do
  let (year, cs) ← digitsBetween 4 0 9999 cs
  let cs ← expect '-' cs
  let (month, cs) ← digitsBetween 2 1 12 cs
  let cs ← expect '-' cs
  let (_, cs) ← digitsBetween 2 1 (daysIn year month) cs
  return cs

def time (cs : List Char) : Option (List Char) := do
  let (_, cs) ← digitsBetween 2 0 23 cs
  let cs ← expect ':' cs
  let (_, cs) ← digitsBetween 2 0 59 cs
  let cs ← expect ':' cs
  let (_, cs) ← digitsBetween 2 0 60 cs
  match cs with
  | '.' :: c :: cs' => if c.isDigit then return cs'.dropWhile Char.isDigit else none
  | '.' :: [] => none
  | cs => return cs

def offset (cs : List Char) : Option (List Char) :=
  match cs with
  | c :: rest =>
    if c = 'Z' ∨ c = 'z' then some rest
    else if c = '+' ∨ c = '-' then do
      let (_, rest) ← digitsBetween 2 0 23 rest
      let rest ← expect ':' rest
      let (_, rest) ← digitsBetween 2 0 59 rest
      return rest
    else some cs
  | [] => some []

def moment (cs : List Char) : Option (Value × List Char) := do
  let rest ←
    match date cs with
    | some rest =>
      match rest with
      | c :: more =>
        if c = 'T' ∨ c = 't' ∨ c = ' ' then
          match time more with
          | some more => offset more
          | none => some rest
        else some rest
      | [] => some []
    | none => time cs
  return (.moment, rest)

def numeral (cs : List Char) : Option (Value × List Char) :=
  (moment cs).orElse fun _ => (finiteFloat cs).orElse fun _ =>
    (namedFloat cs).orElse fun _ => integer cs

def boolean : List Char → Option (Value × List Char)
  | 't' :: 'r' :: 'u' :: 'e' :: cs => some (.boolean true, cs)
  | 'f' :: 'a' :: 'l' :: 's' :: 'e' :: cs => some (.boolean false, cs)
  | _ => none

end TwinCatalogue.Toml
