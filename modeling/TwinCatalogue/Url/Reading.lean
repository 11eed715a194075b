import TwinCatalogue.Text.Blank
import TwinCatalogue.Url.Basic

/-!
Reading web addresses, as browsers do: blanks at the ends and line ends within do not count, a
backslash is a slash, dot segments are resolved, and a port that need not be named is dropped.
-/

namespace TwinCatalogue.Url

/-- Characters that no part of an address shows: control characters, blanks, quotes and angle
brackets. -/
def hidden (c : Char) : Bool := c.toNat ≤ 32 || 127 ≤ c.toNat || "\"<>".toList.contains c

def inFragment (c : Char) : Bool := !hidden c && c != '`'

def inQuery (c : Char) : Bool := !hidden c && c != '#' && c != '\''

def inPath (c : Char) : Bool := inFragment c && !"#?^\x7b\x7d".toList.contains c

def inCredentials (c : Char) : Bool := inPath c && !"/:;=@[\\]|".toList.contains c

def encoded (keep : Char → Bool) (cs : List Char) : String := String.ofList (Percent.encode keep cs)

def relevant (s : String) : List Char :=
  (Text.stripWhile (·.toNat ≤ 32) s.toList).filter fun c => !"\t\n\r".toList.contains c

def isSlash (c : Char) : Bool := c == '/' || c == '\\'

def splitAt (p : Char → Bool) : List Char → List (List Char)
  | [] => [[]]
  | c :: rest =>
    match splitAt p rest with
    | [] => [[c]]
    | first :: later => if p c then [] :: first :: later else (c :: first) :: later

def isDot (segment : String) : Bool :=
  [".", "%2e"].contains (Text.lowerAscii segment)

def isDoubleDot (segment : String) : Bool :=
  ["..", ".%2e", "%2e.", "%2e%2e"].contains (Text.lowerAscii segment)

/-- The segments of a path with dot segments resolved, given those that are settled, the last one
first. A dot segment at the end leaves an empty one. -/
def resolveDots : List String → List String → List String
  | settled, [] => settled.reverse
  | settled, [last] =>
    if isDoubleDot last then ("" :: settled.tail).reverse
    else if isDot last then ("" :: settled).reverse
    else (last :: settled).reverse
  | settled, segment :: rest =>
    if isDoubleDot segment then resolveDots settled.tail rest
    else if isDot segment then resolveDots settled rest
    else resolveDots (segment :: settled) rest

def segments (cs : List Char) : List String :=
  let inner :=
    match cs with
    | [] => []
    | c :: rest => if isSlash c then rest else c :: rest
  resolveDots [] ((splitAt isSlash inner).map (encoded inPath))

def cut (p : Char → Bool) (cs : List Char) : List Char × Option (List Char) :=
  match cs.dropWhile fun c => !p c with
  | [] => (cs, none)
  | _ :: after => (cs.takeWhile fun c => !p c, some after)

def scheme? (cs : List Char) : Option (String × List Char) :=
  match cs with
  | [] => none
  | c :: _ =>
    let isPart (c : Char) : Bool := c.isAlphanum || c == '+' || c == '-' || c == '.'
    match cs.dropWhile isPart with
    | ':' :: rest =>
      if c.isAlpha then some (Text.lowerAscii (String.ofList (cs.takeWhile isPart)), rest) else none
    | _ => none

/-- The part before the last character of a class, if there is one, and the part after it. -/
def cutLast (p : Char → Bool) (cs : List Char) : Option (List Char) × List Char :=
  match cut p cs.reverse with
  | (_, none) => (none, cs)
  | (after, some before) => (some before.reverse, after.reverse)

/-- The host and what follows its colon; colons between brackets belong to the host. -/
def cutPort : (inBrackets : Bool) → List Char → List Char × Option (List Char)
  | _, [] => ([], none)
  | inBrackets, c :: rest =>
    if c = ':' ∧ inBrackets = false then ([], some rest)
    else
      let (host, port) := cutPort (c = '[' ∨ (inBrackets ∧ c ≠ ']')) rest
      (c :: host, port)

/-- The number of a port: none for no digits and for the one that need not be named. -/
def portNumber (scheme : Scheme) : Option (List Char) → Except UrlFault (Option Nat)
  | none => .ok none
  | some digits =>
    if !digits.all Char.isDigit then .error .invalidPort
    else
      match Host.ofDigits? 10 digits with
      | none => .error .invalidPort
      | some n =>
        if 65535 < n then .error .invalidPort
        else if digits.isEmpty ∨ n = scheme.port then .ok none
        else .ok (some n)

def userAndPassword : Option (List Char) → String × Option String
  | none => ("", none)
  | some cs =>
    let (user, password) := cut (· == ':') cs
    (encoded inCredentials user,
      (password.filter (!·.isEmpty)).map (encoded inCredentials))

def ofAuthority (scheme : Scheme) (cs : List Char) : Except UrlFault Url := do
  let (before, fragment) := cut (· == '#') cs
  let (address, query) := cut (· == '?') before
  let authority := address.takeWhile fun c => !isSlash c
  let path := address.dropWhile fun c => !isSlash c
  let (credentials, hostAndPort) := cutLast (· == '@') authority
  let (hostText, portText) := cutPort false hostAndPort
  let host ← Host.parse hostText
  let port ← portNumber scheme portText
  let (user, password) := userAndPassword credentials
  return {
    scheme := scheme
    user := user
    password := password
    host := host
    port := port
    path := segments path
    query := query.map (encoded inQuery)
    fragment := fragment.map (encoded inFragment) }

def parse (s : String) : Except UrlFault Url :=
  match scheme? (relevant s) with
  | none => .error .relative
  | some (scheme, rest) =>
    let authority := rest.dropWhile isSlash
    if scheme = "http" then ofAuthority .http authority
    else if scheme = "https" then ofAuthority .https authority
    else .error .otherScheme

end TwinCatalogue.Url
