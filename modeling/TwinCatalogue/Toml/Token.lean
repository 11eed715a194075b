/-!
The small parts of TOML documents: blanks, line ends and comments, strings and keys. Each reader
takes its part from the front and answers what is left.
-/

namespace TwinCatalogue.Toml

def isBlank (c : Char) : Bool := c == ' ' || c == '\t'

def skipBlanks (cs : List Char) : List Char := cs.dropWhile isBlank

/-- Characters that comments and literal strings may have: no control character but the tab. -/
def isPlain (c : Char) : Bool := c == '\t' || (32 ≤ c.toNat && c.toNat ≠ 127)

def newline : List Char → Option (List Char)
  | '\n' :: cs => some cs
  | '\r' :: '\n' :: cs => some cs
  | _ => none

def skipComment : List Char → List Char
  | '#' :: cs => cs.dropWhile isPlain
  | cs => cs

/-- The rest after the end of a statement: blanks, a comment, and a line end or nothing. -/
def lineEnd (cs : List Char) : Option (List Char) :=
  match skipComment (skipBlanks cs) with
  | [] => some []
  | cs => newline cs

def skipLines : Nat → List Char → Option (List Char)
  | 0, _ => none
  | fuel + 1, cs =>
    match skipBlanks cs with
    | '#' :: cs =>
      match cs.dropWhile isPlain with
      | [] => some []
      | cs => (newline cs).bind (skipLines fuel)
    | cs =>
      match newline cs with
      | some rest => skipLines fuel rest
      | none => some cs

def digit? (base : Nat) (c : Char) : Option Nat :=
  let value :=
    if '0' ≤ c ∧ c ≤ '9' then some (c.toNat - '0'.toNat)
    else if 'a' ≤ c ∧ c ≤ 'f' then some (c.toNat - 'a'.toNat + 10)
    else if 'A' ≤ c ∧ c ≤ 'F' then some (c.toNat - 'A'.toNat + 10)
    else none
  value.filter (· < base)

/-- The character with the code point that the given number of hexadecimal digits writes. -/
def codePoint (count : Nat) (cs : List Char) : Option (Char × List Char) := do
  let found := cs.take count
  if found.length < count then none
  else
    let digits ← found.mapM (digit? 16)
    let n := digits.foldl (fun n d => n * 16 + d) 0
    if n.isValidChar then some (Char.ofNat n, cs.drop count) else none

def escaped : List Char → Option (Char × List Char)
  | '"' :: cs => some ('"', cs)
  | '\\' :: cs => some ('\\', cs)
  | 'b' :: cs => some ('\x08', cs)
  | 'f' :: cs => some ('\x0c', cs)
  | 'n' :: cs => some ('\n', cs)
  | 'r' :: cs => some ('\r', cs)
  | 't' :: cs => some ('\t', cs)
  | 'u' :: cs => codePoint 4 cs
  | 'U' :: cs => codePoint 8 cs
  | _ => none

def basicChars : Nat → List Char → Option (List Char × List Char)
  | 0, _ => none
  | fuel + 1, cs =>
    match cs with
    | [] => none
    | '"' :: cs => some ([], cs)
    | '\\' :: cs => do
      let (c, cs) ← escaped cs
      let (rest, cs) ← basicChars fuel cs
      return (c :: rest, cs)
    | c :: cs =>
      if isPlain c then do
        let (rest, cs) ← basicChars fuel cs
        return (c :: rest, cs)
      else none

def literalChars : List Char → Option (List Char × List Char)
  | [] => none
  | '\'' :: cs => some ([], cs)
  | c :: cs =>
    if isPlain c then do
      let (rest, cs) ← literalChars cs
      return (c :: rest, cs)
    else none

/-- The quotes at the front of a text of several lines: those that belong to the text, and
whether three more close it. -/
def closingQuotes (quote : Char) (cs : List Char) : List Char × Bool × List Char :=
  let run := (cs.takeWhile (· == quote)).take 5
  let rest := cs.drop run.length
  if run.length < 3 then (run, false, rest) else (run.drop 3, true, rest)

def skipFolded : Nat → List Char → List Char
  | 0, cs => cs
  | fuel + 1, cs =>
    let cs := skipBlanks cs
    match newline cs with
    | some rest => skipFolded fuel rest
    | none => cs

/-- The characters of a text of several lines up to its three closing quotes. With escapes, a
backslash at the end of a line joins it to the next text. -/
def longChars (quote : Char) (escapes : Bool) : Nat → List Char → Option (List Char × List Char)
  | 0, _ => none
  | fuel + 1, cs =>
    match cs with
    | [] => none
    | c :: rest =>
      if c = quote then
        let (own, closed, rest) := closingQuotes quote cs
        if closed then some (own, rest)
        else do
          let (more, rest) ← longChars quote escapes fuel rest
          return (own ++ more, rest)
      else if c = '\\' ∧ escapes then
        match newline (skipBlanks rest) with
        | some rest => longChars quote escapes fuel (skipFolded rest.length rest)
        | none => do
          let (e, rest) ← escaped rest
          let (more, rest) ← longChars quote escapes fuel rest
          return (e :: more, rest)
      else
        match newline cs with
        | some rest => do
          let (more, rest) ← longChars quote escapes fuel rest
          return ('\n' :: more, rest)
        | none =>
          if isPlain c then do
            let (more, rest) ← longChars quote escapes fuel rest
            return (c :: more, rest)
          else none

def string (cs : List Char) : Option (String × List Char) := do
  let (found, rest) ←
    match cs with
    | '"' :: '"' :: '"' :: cs => longChars '"' true (cs.length + 1) ((newline cs).getD cs)
    | '\'' :: '\'' :: '\'' :: cs => longChars '\'' false (cs.length + 1) ((newline cs).getD cs)
    | '"' :: cs => basicChars (cs.length + 1) cs
    | '\'' :: cs => literalChars cs
    | _ => none
  return (String.ofList found, rest)

def isKeyChar (c : Char) : Bool :=
  c.isAlphanum || c == '-' || c == '_'

def keyPart (cs : List Char) : Option (String × List Char) :=
  match cs with
  | '"' :: cs => (basicChars (cs.length + 1) cs).map fun (found, rest) => (String.ofList found, rest)
  | '\'' :: cs => (literalChars cs).map fun (found, rest) => (String.ofList found, rest)
  | cs =>
    let found := cs.takeWhile isKeyChar
    if found.isEmpty then none else some (String.ofList found, cs.dropWhile isKeyChar)

def keyParts : Nat → List Char → Option (List String × List Char)
  | 0, _ => none
  | fuel + 1, cs => do
    let (part, cs) ← keyPart (skipBlanks cs)
    match skipBlanks cs with
    | '.' :: cs =>
      let (rest, cs) ← keyParts fuel cs
      return (part :: rest, cs)
    | cs => return ([part], cs)

def depthLimit : Nat := 80

def key (cs : List Char) : Option ((List String × String) × List Char) := do
  let (parts, rest) ← keyParts (cs.length + 1) cs
  if depthLimit ≤ parts.length then none
  else
    let last ← parts.getLast?
    return ((parts.dropLast, last), rest)

end TwinCatalogue.Toml
