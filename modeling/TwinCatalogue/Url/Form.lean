import TwinCatalogue.Url.Percent

/-!
Pairs of names and values in the form of a query: joined by equals signs and ampersands, with a
plus for each space. Decoding gives the pairs back.
-/

namespace TwinCatalogue.Form

/-- Characters that stand for themselves: letters and digits of ASCII and `*`, `-`, `.`, `_`. -/
def keeps (c : Char) : Bool := c.isAlphanum || c == '*' || c == '-' || c == '.' || c == '_'

def encodeChar (c : Char) : List Char := if c = ' ' then ['+'] else Percent.encodeChar keeps c

def encodeText (s : String) : List Char := s.toList.flatMap encodeChar

def encodePair (pair : String × String) : List Char :=
  encodeText pair.1 ++ '=' :: encodeText pair.2

def encode : List (String × String) → List Char
  | [] => []
  | [pair] => encodePair pair
  | pair :: rest => encodePair pair ++ '&' :: encode rest

def decodeText (cs : List Char) : String :=
  Percent.decodeText (cs.map fun c => if c = '+' then ' ' else c)

def decodePair (cs : List Char) : String × String :=
  (decodeText (cs.takeWhile (· != '=')), decodeText ((cs.dropWhile (· != '=')).drop 1))

def decode (cs : List Char) : List (String × String) :=
  ((cs.splitOn '&').filter (!·.isEmpty)).map decodePair

end TwinCatalogue.Form
