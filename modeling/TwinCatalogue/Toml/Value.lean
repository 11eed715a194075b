import TwinCatalogue.Number.Binary64

/-!
TOML values, and how the statements of a document build its tables. A table may be opened once by
its header; tables that came about on the way to another one stay open until then, and tables
that dotted keys made can only be extended by dotted keys.
-/

namespace TwinCatalogue.Toml

/-- A value. Of a date or time only its presence matters. -/
inductive Value where
  | string (text : String)
  | integer (number : Int)
  | float (number : Binary64)
  | boolean (flag : Bool)
  | moment
  | array (items : List Value)
  | table (members : List (String × Value))
  deriving Repr, Inhabited

/-- What stands under a key while a document is read: a finished value, a table that can still be
extended, or a list of tables with the last one first. -/
inductive Node where
  | value (v : Value)
  | table (implicitly dotted : Bool) (members : List (String × Node))
  | tables (items : List (List (String × Node)))
  deriving Inhabited

abbrev Members := List (String × Node)

def Members.put (key : String) (node : Node) : Members → Members
  | [] => [(key, node)]
  | (k, n) :: rest => if k = key then (key, node) :: rest else (k, n) :: Members.put key node rest

/-- Changes the table that a path leads to, making tables on the way. With `byKey` the way is a
dotted key, which may not enter a table that has a header. The change is told whether the table
was made by dotted keys. -/
def descend (byKey : Bool) (change : Bool → Members → Option Members) :
    List String → Bool → Members → Option Members
  | [], dotted, members => change dotted members
  | key :: path, _, members =>
    match members.lookup key with
    | none => do
      let inner ← descend byKey change path byKey []
      return members.put key (.table true byKey inner)
    | some (.value _) => none
    | some (.table implicitly dotted inner) =>
      if byKey && !implicitly then none
      else do
        let inner ← descend byKey change path dotted inner
        return members.put key (.table implicitly dotted inner)
    | some (.tables (last :: earlier)) => do
      let inner ← descend byKey change path false last
      return members.put key (.tables (inner :: earlier))
    | some (.tables []) => none

def assign (path : List String) (key : String) (v : Value) (dotted : Bool) (members : Members) :
    Option Members :=
  descend true (fun byKeys members =>
    if byKeys = path.isEmpty then none
    else if (members.lookup key).isSome then none
    else some (members.put key (.value v))) path dotted members

def openTable (path : List String) (key : String) (root : Members) : Option Members :=
  descend false (fun _ members =>
    match members.lookup key with
    | none => some (members.put key (.table false false []))
    | some (.table true false inner) => some (members.put key (.table false false inner))
    | some _ => none) path false root

def openListed (path : List String) (key : String) (root : Members) : Option Members :=
  descend false (fun _ members =>
    match members.lookup key with
    | none => some (members.put key (.tables [[]]))
    | some (.tables items) => some (members.put key (.tables ([] :: items)))
    | some _ => none) path false root

mutual

def Node.close : Node → Value
  | .value v => v
  | .table _ _ members => .table (closeMembers members)
  | .tables items => .array (closeItems items).reverse

def closeMembers : List (String × Node) → List (String × Value)
  | [] => []
  | (key, node) :: rest => (key, node.close) :: closeMembers rest

def closeItems : List (List (String × Node)) → List Value
  | [] => []
  | members :: rest => .table (closeMembers members) :: closeItems rest

end

end TwinCatalogue.Toml
