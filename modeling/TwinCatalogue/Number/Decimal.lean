import TwinCatalogue.Number.Binary64

/-!
Decimal numbers read as double precision numbers. `nearest` rounds the exact value once.
`scaled` starts from a whole significand and multiplies or divides by a rounded power of ten,
as a reader does that keeps no more than the digits of a 64 bit number.
-/

namespace TwinCatalogue.Decimal

def ofDigits (digits : List Char) : Nat :=
  digits.foldl (fun n c => n * 10 + (c.toNat - '0'.toNat)) 0

/-- The double precision number nearest to `digits * 10 ^ exponent`. Exponents that lead far out
of the range of a finite number are settled by the number of digits alone. -/
def nearest (negative : Bool) (digits : Nat) (exponent : Int) : Binary64 :=
  let places : Int := (Nat.toDigits 10 digits).length
  if digits = 0 then .finite negative 0
  else if 400 < exponent + places then .infinite negative
  else if exponent + places < -400 then .finite negative 0
  else if 0 ≤ exponent then
    .ofUnits negative (digits * Nat.pow 10 exponent.toNat * Binary64.one) 1
  else
    .ofUnits negative (digits * Binary64.one) (Nat.pow 10 (-exponent).toNat)

def tenTo (n : Nat) : Binary64 := .ofNat (Nat.pow 10 n)

/-- Scales a number by a power of ten in steps of at most 308 places, each step rounded.
Nothing is the answer when the number grows beyond every finite one. -/
def scale (x : Binary64) (exponent : Int) : Option Binary64 :=
  if 0 ≤ exponent then
    if exponent ≤ 308 then
      match x.mul (tenTo exponent.toNat) with
      | .infinite _ => none
      | y => some y
    else if x.same (.ofNat 0) then some x
    else none
  else if -308 ≤ exponent then some (x.div (tenTo (-exponent).toNat))
  else if x.same (.ofNat 0) then some x
  else scale (x.div (tenTo 308)) (exponent + 308)
termination_by (-exponent).toNat
decreasing_by omega

/-- The whole digits that fit into 64 bits together with those before them, and the number of
digits taken. -/
def takeFitting (significand : Nat) : List Char → Nat × Nat
  | [] => (significand, 0)
  | c :: rest =>
    let next := significand * 10 + (c.toNat - '0'.toNat)
    if next < Nat.pow 2 64 then
      let (result, taken) := takeFitting next rest
      (result, taken + 1)
    else (significand, 0)

/-- The number that is read from whole digits, digits after the point and an exponent, when it is
finite. Of the digits only those count that fit into 64 bits; each whole digit after them
stands for one place. -/
def scaled (negative : Bool) (whole fraction : List Char) (exponent : Int) : Option Binary64 :=
  let (significand, taken) := takeFitting 0 whole
  let (significand, places) := takeFitting significand fraction
  let left : Int := whole.length - taken
  (scale (.ofNat significand) (left - places + exponent)).map fun x =>
    if negative then x.neg else x

end TwinCatalogue.Decimal
