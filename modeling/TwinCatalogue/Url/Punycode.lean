/-!
Punycode, which writes the labels of international host names in ASCII: first the ASCII
characters, and then for each other one how far it is from the one before, in a number system
whose digits adapt to the distances.
-/

namespace TwinCatalogue.Punycode

def digit (n : Nat) : Char := if n < 26 then Char.ofNat (97 + n) else Char.ofNat (22 + n)

def threshold (place bias : Nat) : Nat :=
  if place ≤ bias then 1 else if bias + 26 ≤ place then 26 else place - bias

theorem threshold_pos (place bias : Nat) : 1 ≤ threshold place bias := by
  unfold threshold
  split
  · omega
  · split <;> omega

def shrink (distance places : Nat) : Nat × Nat :=
  if 455 < distance then shrink (distance / 35) (places + 36) else (distance, places)
termination_by distance
decreasing_by exact Nat.div_lt_self (by omega) (by omega)

def adapt (distance count : Nat) (first : Bool) : Nat :=
  let scaled := if first then distance / 700 else distance / 2
  let (rest, places) := shrink (scaled + scaled / count) 0
  places + 36 * rest / (rest + 38)

def digits (bias place n : Nat) : List Char :=
  let t := threshold place bias
  if n < t then [digit n]
  else digit (t + (n - t) % (36 - t)) :: digits bias (place + 36) ((n - t) / (36 - t))
termination_by n
decreasing_by
  have h := threshold_pos place bias
  calc (n - threshold place bias) / (36 - threshold place bias)
      ≤ n - threshold place bias := Nat.div_le_self _ _
    _ < n := by omega

/-- What is known between two characters: the digits so far, the distance that has come up, the
bias, and how many characters have been written. -/
structure State where
  written : List Char
  distance : Nat
  bias : Nat
  count : Nat

def pass (basic code : Nat) (s : State) (c : Char) : State :=
  if c.toNat < code then { s with distance := s.distance + 1 }
  else if c.toNat = code then
    { written := s.written ++ digits s.bias 36 s.distance
      distance := 0
      bias := adapt s.distance (s.count + 1) (s.count == basic)
      count := s.count + 1 }
  else s

def writeCodes (label : List Char) (basic : Nat) : List Nat → Nat → State → State
  | [], _, s => s
  | code :: rest, start, s =>
    let moved := { s with distance := s.distance + (code - start) * (s.count + 1) }
    let passed := label.foldl (pass basic code) moved
    writeCodes label basic rest (code + 1) { passed with distance := passed.distance + 1 }

def insertOnce (n : Nat) : List Nat → List Nat
  | [] => [n]
  | m :: rest => if n < m then n :: m :: rest else if n = m then m :: rest else m :: insertOnce n rest

def encode (label : List Char) : List Char :=
  let basic := label.filter (·.toNat < 128)
  let codes := ((label.filter (128 ≤ ·.toNat)).map Char.toNat).foldr insertOnce []
  basic ++ (if basic.isEmpty then [] else ['-']) ++
    (writeCodes label basic.length codes 128 ⟨[], 0, 72, basic.length⟩).written

end TwinCatalogue.Punycode
