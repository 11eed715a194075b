import TwinCatalogue.Number.Binary64

/-!
The shortest decimal digits that read back as a given double precision number, and two ways of
writing them. For each count of digits the two neighbours of the number on the decimal grid are
compared with the interval of reals that round to the number, in exact arithmetic.
-/

namespace TwinCatalogue

/-- A positive decimal number `digits * 10 ^ exponent`. -/
structure DecimalDigits where
  digits : Nat
  exponent : Int
  deriving DecidableEq, Repr

namespace DecimalDigits

def strip (fuel : Nat) (d : DecimalDigits) : DecimalDigits :=
  match fuel with
  | 0 => d
  | fuel + 1 => if d.digits % 10 = 0 then strip fuel ⟨d.digits / 10, d.exponent + 1⟩ else d

/-- Numerator of the number over the denominator `10 ^ (-exponent)` if that is a fraction. -/
def numerator (digits : Nat) (exponent : Int) : Nat := digits * Nat.pow 10 exponent.toNat

def denominator (exponent : Int) : Nat := Nat.pow 10 (-exponent).toNat

/-- The least power of ten, from the given one on, that makes a number of units one or more. -/
def placesToOne (units : Nat) : (fuel n : Nat) → Nat
  | 0, n => n
  | fuel + 1, n => if units * Nat.pow 10 n < Binary64.one then placesToOne units fuel (n + 1) else n

def leading (units : Nat) : Int :=
  let whole := units / Binary64.one
  if whole = 0 then -(placesToOne units 324 1 : Int)
  else (Nat.toDigits 10 whole).length - 1

/-- Whether a decimal number rounds to the given number of units. All is compared in quarters of
a unit, since half the distance to a smaller neighbour can be a quarter of a step. -/
def roundsTo (units digits : Nat) (exponent : Int) : Bool :=
  let step := Binary64.step units
  let even := (units / step) % 2 == 0
  let above := 4 * units + 2 * step
  let below := if units = Nat.pow 2 units.log2 ∧ 1 < step then 4 * units - step else 4 * units - 2 * step
  let value := 4 * Binary64.one * numerator digits exponent
  let scale := denominator exponent
  if even then decide (below * scale ≤ value) && decide (value ≤ above * scale)
  else decide (below * scale < value) && decide (value < above * scale)

/-- The distance of a decimal number from a number of units, as a numerator over one common
denominator for each exponent. -/
def distance (units digits : Nat) (exponent : Int) : Nat :=
  let exact := units * denominator exponent
  let value := Binary64.one * numerator digits exponent
  (exact - value) + (value - exact)

/-- The nearest decimal number with the given count of digits that rounds to the units, if there
is one. Of two equally near ones the even one is taken. -/
def withCount (units count : Nat) : Option DecimalDigits :=
  let exponent := leading units - count + 1
  let low := units * denominator exponent / (Binary64.one * numerator 1 exponent)
  let high := low + 1
  let fits := fun d => d ≠ 0 && roundsTo units d exponent
  let toLow := distance units low exponent
  let toHigh := distance units high exponent
  let lowFirst := decide (toLow < toHigh) || (toLow == toHigh && low % 2 == 0)
  if fits low && (!fits high || lowFirst) then some ⟨low, exponent⟩
  else if fits high then some ⟨high, exponent⟩
  else none

/-- The shortest digits that read back as a positive number of units: seventeen are always
enough. -/
def ofUnits (units : Nat) : DecimalDigits :=
  let counts := (List.range 17).map (· + 1)
  match counts.findSome? (withCount units) with
  | some d => strip 17 d
  | none => ⟨0, 0⟩

def text (d : DecimalDigits) : List Char := Nat.toDigits 10 d.digits

/-- Written out in full, without exponent: zeros at the end or after the point as needed. -/
def positional (d : DecimalDigits) : List Char :=
  let cs := d.text
  if 0 ≤ d.exponent then cs ++ List.replicate d.exponent.toNat '0'
  else
    let places := (-d.exponent).toNat
    if places < cs.length then
      cs.take (cs.length - places) ++ '.' :: cs.drop (cs.length - places)
    else '0' :: '.' :: (List.replicate (places - cs.length) '0' ++ cs)

def order (d : DecimalDigits) : Int := d.exponent + d.text.length - 1

def scientific (d : DecimalDigits) (power : Int → String) : List Char :=
  let mantissa :=
    match d.text with
    | [] => []
    | [c] => [c]
    | c :: cs => c :: '.' :: cs
  mantissa ++ 'e' :: (power d.order).toList

def signedPower (n : Int) : String :=
  let digits := Nat.toDigits 10 n.natAbs
  String.ofList ((if n < 0 then '-' else '+') ::
    if digits.length < 2 then '0' :: digits else digits)

end DecimalDigits

namespace Binary64

def withSign (negative : Bool) (cs : List Char) : String :=
  String.ofList (if negative then '-' :: cs else cs)

/-- The number in full: shortest digits that read back, never an exponent, and a point only
before digits. -/
def display : Binary64 → String
  | nan => "NaN"
  | infinite negative => withSign negative "inf".toList
  | finite negative 0 => withSign negative ['0']
  | finite negative units => withSign negative (DecimalDigits.ofUnits units).positional

/-- The number for diagnostics: with a point or an exponent, and with an exponent outside the orders
-4 to 15. -/
def diagnostic : Binary64 → String
  | nan => "NaN"
  | infinite negative => withSign negative "inf".toList
  | finite negative 0 => withSign negative "0.0".toList
  | finite negative units =>
    let d := DecimalDigits.ofUnits units
    let cs :=
      if d.order < -4 ∨ 15 < d.order then d.scientific (toString ·)
      else if 0 ≤ d.exponent then d.positional ++ ['.', '0']
      else d.positional
    withSign negative cs

/-- The number as it stands in a JSON text: shortest digits that read back, with a point or an
exponent so that it is read as no integer. Outside the orders -5 to 15 the notation is scientific.
There is no such text for a NaN or an infinite number. -/
def json? : Binary64 → Option String
  | nan => none
  | infinite _ => none
  | finite negative 0 => some (withSign negative "0.0".toList)
  | finite negative units =>
    let d := DecimalDigits.ofUnits units
    let cs :=
      if d.order < -5 ∨ 15 < d.order then d.scientific DecimalDigits.signedPower
      else if 0 ≤ d.exponent then d.positional ++ ['.', '0']
      else d.positional
    some (withSign negative cs)

end Binary64

end TwinCatalogue
