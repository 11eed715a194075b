import TwinCatalogue.Text.Quoted
import TwinCatalogue.Url.Percent
import TwinCatalogue.Url.Punycode

/-!
Hosts of web addresses: names, and addresses of the fourth and the sixth version of the Internet
Protocol. A name that ends in a number is read as an address of the fourth version.
-/

namespace TwinCatalogue

/-- Why a text is no web address that can be called. -/
inductive UrlFault where
  | relative
  | otherScheme
  | emptyHost
  | invalidName
  | invalidIpv4
  | invalidIpv6
  | invalidPort
  deriving DecidableEq, Repr

def UrlFault.message : UrlFault → String
  | relative => "relative URL without a base"
  | otherScheme => "URL scheme is not allowed"
  | emptyHost => "empty host"
  | invalidName => "invalid international domain name"
  | invalidIpv4 => "invalid IPv4 address"
  | invalidIpv6 => "invalid IPv6 address"
  | invalidPort => "invalid port number"

inductive Host where
  | name (labels : String)
  | ipv4 (address : Nat)
  | ipv6 (groups : List Nat)
  deriving DecidableEq, Repr

namespace Host

def ofDigits? (base : Nat) (cs : List Char) : Option Nat :=
  cs.foldlM (fun n c => do
    let d ← Percent.digit? c
    if d < base then some (n * base + d) else none) 0

def part? : List Char → Option Nat
  | [] => none
  | '0' :: 'x' :: digits => ofDigits? 16 digits
  | '0' :: 'X' :: digits => ofDigits? 16 digits
  | '0' :: c :: digits => ofDigits? 8 (c :: digits)
  | digits => ofDigits? 10 digits

def parts (cs : List Char) : List (List Char) :=
  match (cs.splitOn '.').reverse with
  | [] => []
  | [only] => [only]
  | [] :: rest => rest.reverse
  | all => all.reverse

def endsInNumber (cs : List Char) : Bool :=
  match (parts cs).getLast? with
  | none => false
  | some last => (!last.isEmpty && last.all Char.isDigit) || (part? last).isSome

/-- An address of the fourth version: at most four numbers, of which the last fills what the
others, one byte each, leave. -/
def ipv4? (cs : List Char) : Option Nat := do
  let numbers ← (parts cs).mapM part?
  let last ← numbers.getLast?
  let front := numbers.dropLast
  if 3 < front.length ∨ front.any (255 < ·) ∨ Nat.pow 256 (4 - front.length) ≤ last then none
  else some (front.foldl (· * 256 + ·) 0 * Nat.pow 256 (4 - front.length) + last)

def group? (cs : List Char) : Option Nat :=
  if cs.isEmpty ∨ 4 < cs.length then none else ofDigits? 16 cs

def byte? (cs : List Char) : Option Nat :=
  match cs with
  | [] => none
  | '0' :: _ :: _ => none
  | _ => (ofDigits? 10 cs).filter (· < 256)

def quad? (cs : List Char) : Option (List Nat) := do
  match ← (cs.splitOn '.').mapM byte? with
  | [a, b, c, d] => some [a * 256 + b, c * 256 + d]
  | _ => none

def groups? : List (List Char) → Option (List Nat)
  | [] => some []
  | [last] => if last.contains '.' then quad? last else (group? last).map ([·])
  | first :: rest => do return (← group? first) :: (← groups? rest)

def side? (cs : List Char) : Option (List Nat) :=
  if cs.isEmpty then some [] else groups? (cs.splitOn ':')

def gap? : List Char → Option (List Char × List Char)
  | ':' :: ':' :: rest => some ([], rest)
  | c :: rest => (gap? rest).map fun found => (c :: found.1, found.2)
  | [] => none

/-- An address of the sixth version: eight groups, of which a double colon leaves out zeros. -/
def ipv6? (cs : List Char) : Option (List Nat) := do
  match gap? cs with
  | none => (← side? cs) |> fun all => if all.length = 8 then some all else none
  | some (before, after) =>
    if before.contains '.' then none
    else
      let front ← side? before
      let back ← side? after
      if front.length + back.length ≤ 7 then
        some (front ++ List.replicate (8 - front.length - back.length) 0 ++ back)
      else none

def forbidden (c : Char) : Bool :=
  c.toNat ≤ 32 || c.toNat == 127 || "%#/:<>?@[\\]^|".toList.contains c

def asciiLabel (cs : List Char) : List Char :=
  if cs.all (·.toNat < 128) then cs else "xn--".toList ++ Punycode.encode cs

/-- The name that percent-encoded characters stand for, in small letters and in ASCII. -/
def name? (cs : List Char) : Option (List Char) := do
  let text ← Text.ofUtf8? (Percent.decode cs)
  let small := text.toList.map Char.toLower
  if small.any forbidden then none
  else some (['.'].intercalate ((small.splitOn '.').map asciiLabel))

def parse (cs : List Char) : Except UrlFault Host :=
  match cs with
  | [] => .error .emptyHost
  | '[' :: rest =>
    if rest.getLast? = some ']' then
      match ipv6? rest.dropLast with
      | some groups => .ok (.ipv6 groups)
      | none => .error .invalidIpv6
    else .error .invalidIpv6
  | cs =>
    match name? cs with
    | none => .error .invalidName
    | some [] => .error .emptyHost
    | some found =>
      if endsInNumber found then
        match ipv4? found with
        | some address => .ok (.ipv4 address)
        | none => .error .invalidIpv4
      else .ok (.name (String.ofList found))

def zeros (groups : List Nat) : Nat := (groups.takeWhile (· == 0)).length

def longestGap : List Nat → Nat → Nat × Nat
  | [], place => (place, 0)
  | g :: rest, place =>
    let here := zeros (g :: rest)
    let later := longestGap rest (place + 1)
    if later.2 ≤ here then (place, here) else later

def colons (groups : List Nat) : String := String.intercalate ":" (groups.map Text.hex)

def render : Host → String
  | name labels => labels
  | ipv4 address =>
    String.intercalate "." ([24, 16, 8, 0].map fun shift => toString (address / Nat.pow 2 shift % 256))
  | ipv6 groups =>
    let (place, length) := longestGap groups 0
    if length < 2 then "[" ++ colons groups ++ "]"
    else "[" ++ colons (groups.take place) ++ "::" ++ colons (groups.drop (place + length)) ++ "]"

end Host

end TwinCatalogue
