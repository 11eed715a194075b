/-!
White space of text: the characters with the Unicode property White_Space, and the
removal of leading and trailing characters of a class.
-/

namespace TwinCatalogue.Text

/-- White space in the sense of Unicode; a zero width space or a byte order mark is none. -/
def isBlank (c : Char) : Bool :=
  let n := c.toNat
  (9 ≤ n && n ≤ 13) || n == 32 || n == 0x85 || n == 0xA0 || n == 0x1680 ||
    (0x2000 ≤ n && n ≤ 0x200A) || n == 0x2028 || n == 0x2029 || n == 0x202F ||
    n == 0x205F || n == 0x3000

def dropEndWhile (p : Char → Bool) (cs : List Char) : List Char :=
  (cs.reverse.dropWhile p).reverse

def stripWhile (p : Char → Bool) (cs : List Char) : List Char :=
  dropEndWhile p (cs.dropWhile p)

def trim (s : String) : String :=
  String.ofList (stripWhile isBlank s.toList)

def blank (s : String) : Bool :=
  s.toList.all isBlank

def trimEndSlashes (s : String) : String :=
  String.ofList (dropEndWhile (· == '/') s.toList)

def trimSlashes (s : String) : String :=
  String.ofList (stripWhile (· == '/') s.toList)

def lowerAscii (s : String) : String :=
  String.ofList (s.toList.map Char.toLower)

def occursIn (pattern : List Char) : List Char → Bool
  | [] => pattern.isEmpty
  | c :: cs => pattern.isPrefixOf (c :: cs) || occursIn pattern cs

def startsWith (s start : String) : Bool :=
  start.toList.isPrefixOf s.toList

end TwinCatalogue.Text
