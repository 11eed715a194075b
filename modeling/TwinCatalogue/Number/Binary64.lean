/-!
Double precision numbers, a finite one held as a whole multiple of the least positive one,
2^-1074. Order and rounding are then order and rounding of natural numbers, and every
operation is its exact result rounded to the nearest number, ties to the even significand.
-/

namespace TwinCatalogue

/-- A double precision number. A finite one is `units` times 2^-1074 with a sign. -/
inductive Binary64 where
  | nan
  | infinite (negative : Bool)
  | finite (negative : Bool) (units : Nat)
  deriving DecidableEq, Repr

namespace Binary64

def one : Nat := Nat.pow 2 1074

def limit : Nat := Nat.pow 2 2098

def roundDiv (num den : Nat) : Nat :=
  let q := num / den
  let r := num % den
  if 2 * r < den then q else if den < 2 * r then q + 1 else q + q % 2

/-- The distance of neighbouring numbers at a size, in units: a significand has 53 bits. -/
def step (units : Nat) : Nat := Nat.pow 2 (units.log2 + 1 - 53)

/-- The number of units nearest to `num / den` that a significand of 53 bits can hold. -/
def roundUnits (num den : Nat) : Nat :=
  let s := step (num / den)
  roundDiv num (den * s) * s

def ofUnits (negative : Bool) (num den : Nat) : Binary64 :=
  let units := roundUnits num den
  if limit ≤ units then infinite negative else finite negative units

def ofNat (n : Nat) : Binary64 := ofUnits false (n * one) 1

def ofInt (n : Int) : Binary64 := ofUnits (decide (n < 0)) (n.natAbs * one) 1

def neg : Binary64 → Binary64
  | nan => nan
  | infinite s => infinite !s
  | finite s u => finite (!s) u

def signed (negative : Bool) (units : Nat) : Int :=
  if negative then -(units : Int) else units

def less : Binary64 → Binary64 → Bool
  | nan, _ => false
  | _, nan => false
  | infinite s, infinite t => s && !t
  | infinite s, finite _ _ => s
  | finite _ _, infinite t => !t
  | finite s u, finite t v => decide (signed s u < signed t v)

def same : Binary64 → Binary64 → Bool
  | nan, _ => false
  | _, nan => false
  | infinite s, infinite t => s == t
  | finite s u, finite t v => signed s u == signed t v
  | _, _ => false

def atMost (a b : Binary64) : Bool := a.less b || a.same b

def max (a b : Binary64) : Binary64 :=
  match a, b with
  | nan, b => b
  | a, nan => a
  | a, b => if a.less b then b else a

def min (a b : Binary64) : Binary64 :=
  match a, b with
  | nan, b => b
  | a, nan => a
  | a, b => if b.less a then b else a

def mul : Binary64 → Binary64 → Binary64
  | nan, _ => nan
  | _, nan => nan
  | infinite s, infinite t => infinite (s != t)
  | infinite s, finite t v => if v = 0 then nan else infinite (s != t)
  | finite s u, infinite t => if u = 0 then nan else infinite (s != t)
  | finite s u, finite t v => ofUnits (s != t) (u * v) one

def div : Binary64 → Binary64 → Binary64
  | nan, _ => nan
  | _, nan => nan
  | infinite _, infinite _ => nan
  | infinite s, finite t _ => infinite (s != t)
  | finite s _, infinite t => finite (s != t) 0
  | finite s u, finite t v =>
    if v = 0 then (if u = 0 then nan else infinite (s != t))
    else ofUnits (s != t) (u * one) v

def add : Binary64 → Binary64 → Binary64
  | nan, _ => nan
  | _, nan => nan
  | infinite s, infinite t => if s = t then infinite s else nan
  | infinite s, finite _ _ => infinite s
  | finite _ _, infinite t => infinite t
  | finite s u, finite t v =>
    let total := signed s u + signed t v
    if total = 0 then finite (s && t) 0 else ofUnits (decide (total < 0)) total.natAbs 1

/-- Multiplies `product` by a power, squaring the base once for each binary digit of the
exponent, the last one first. Every product on the way is rounded. -/
def mulPow (product base : Binary64) (exponent : Nat) : Binary64 :=
  let product := if exponent % 2 = 1 then product.mul base else product
  if exponent / 2 = 0 then product else mulPow product (base.mul base) (exponent / 2)
termination_by exponent
decreasing_by omega

def pow (base : Binary64) (exponent : Nat) : Binary64 := mulPow (ofNat 1) base exponent

/-- The whole part as an unsigned 64 bit number; out of range numbers go to the nearest end
and a NaN to zero. -/
def toUInt64 : Binary64 → UInt64
  | nan => 0
  | infinite negative => if negative then 0 else UInt64.ofNat (Nat.pow 2 64 - 1)
  | finite negative units => if negative then 0 else UInt64.ofNat (Nat.min (units / one) (Nat.pow 2 64 - 1))

end Binary64

end TwinCatalogue
