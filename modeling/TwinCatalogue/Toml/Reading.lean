import TwinCatalogue.Toml.Scalar

/-!
TOML documents: values with arrays and inline tables, statements, and the table that the
statements of a text build.
-/

namespace TwinCatalogue.Toml

mutual

def value (fuel depth : Nat) (cs : List Char) : Option (Value × List Char) :=
  match fuel with
  | 0 => none
  | fuel + 1 =>
    match cs with
    | '[' :: cs =>
      match depth with
      | 0 => none
      | depth + 1 => do
        let (found, cs) ← arrayItems fuel depth cs
        return (.array found, cs)
    | '{' :: cs =>
      match depth with
      | 0 => none
      | depth + 1 =>
        match skipBlanks cs with
        | '}' :: cs => some (.table [], cs)
        | cs => do
          let (found, cs) ← inlineMembers fuel depth [] cs
          return (.table (closeMembers found), cs)
    | c :: cs =>
      if c = '"' ∨ c = '\'' then (string (c :: cs)).map fun (s, rest) => (.string s, rest)
      else (boolean (c :: cs)).orElse fun _ => numeral (c :: cs)
    | [] => none

/-- The items of an array up to its closing bracket. They may stand on several lines. -/
def arrayItems (fuel depth : Nat) (cs : List Char) : Option (List Value × List Char) :=
  match fuel with
  | 0 => none
  | fuel + 1 => do
    let cs ← skipLines (cs.length + 1) cs
    match cs with
    | ']' :: cs => return ([], cs)
    | cs =>
      let (first, cs) ← value fuel depth cs
      let cs ← skipLines (cs.length + 1) cs
      match cs with
      | ',' :: cs =>
        let (rest, cs) ← arrayItems fuel depth cs
        return (first :: rest, cs)
      | ']' :: cs => return ([first], cs)
      | _ => none

/-- The members of an inline table up to its closing brace, added to those found before. -/
def inlineMembers (fuel depth : Nat) (found : Members) (cs : List Char) : Option (Members × List Char) :=
  match fuel with
  | 0 => none
  | fuel + 1 => do
    let ((path, last), cs) ← key cs
    let cs ← expect '=' cs
    let (v, cs) ← value fuel depth (skipBlanks cs)
    let found ← assign path last v false found
    match skipBlanks cs with
    | ',' :: cs => inlineMembers fuel depth found cs
    | '}' :: cs => return (found, cs)
    | _ => none

end

inductive Statement where
  | assign (path : List String) (key : String) (value : Value)
  | table (path : List String) (key : String)
  | listed (path : List String) (key : String)

def statement (cs : List Char) : Option (Statement × List Char) :=
  match cs with
  | '[' :: '[' :: cs => do
    let ((path, last), cs) ← key cs
    let cs ← expect ']' cs
    let cs ← expect ']' cs
    let cs ← lineEnd cs
    return (.listed path last, cs)
  | '[' :: cs => do
    let ((path, last), cs) ← key cs
    let cs ← expect ']' cs
    let cs ← lineEnd cs
    return (.table path last, cs)
  | cs => do
    let ((path, last), cs) ← key cs
    let cs ← expect '=' cs
    let (v, cs) ← value (2 * cs.length + 2) (depthLimit - 1) (skipBlanks cs)
    let cs ← lineEnd cs
    return (.assign path last v, cs)

def statements : Nat → List Char → Option (List Statement)
  | 0, _ => none
  | fuel + 1, cs => do
    let cs ← skipLines (cs.length + 1) cs
    match cs with
    | [] => return []
    | cs =>
      let (first, cs) ← statement cs
      let rest ← statements fuel cs
      return first :: rest

/-- A document under construction: its table, and the path of the table that is open. -/
structure Builder where
  root : Members
  current : List String

def Builder.add (b : Builder) : Statement → Option Builder
  | .assign path key v => do
    let root ← descend false (assign path key v) b.current false b.root
    return { b with root := root }
  | .table path key => do
    let root ← openTable path key b.root
    return ⟨root, path ++ [key]⟩
  | .listed path key => do
    let root ← openListed path key b.root
    return ⟨root, path ++ [key]⟩

def parse (text : String) : Option (List (String × Value)) := do
  let cs := match text.toList with
    | c :: cs => if c = Char.ofNat 0xFEFF then cs else c :: cs
    | [] => []
  let found ← statements (cs.length + 1) cs
  let b ← found.foldlM Builder.add ⟨[], []⟩
  return closeMembers b.root

end TwinCatalogue.Toml
