import TwinCatalogue.Json.Reading
import TwinCatalogue.Toml.Reading

/-!
Settings, whatever notation they are written in. Only what is asked for is looked at: members
that nobody knows may hold anything.
-/

namespace TwinCatalogue

/-- A setting. Keys that are no text are kept as nothing; `other` stands for values that no
setting can have. -/
inductive Setting where
  | integer (number : Int)
  | decimal (number : Binary64)
  | text (value : String)
  | flag (value : Bool)
  | list (items : List Setting)
  | table (members : List (Option String × Setting))
  | other
  deriving Inhabited

namespace Setting

mutual

def ofWritten : Json.Written → Setting
  | .null => .other
  | .bool b => .flag b
  | .number n =>
    match Json.ofNumber n with
    | some (.integer n) => .integer n
    | some (.decimal x) => .decimal x
    | _ => .other
  | .string pieces =>
    match Json.textOf? pieces with
    | some s => .text s
    | none => .other
  | .array items => .list (ofWrittenItems items)
  | .object members => .table (ofWrittenMembers members)

def ofWrittenItems : List Json.Written → List Setting
  | [] => []
  | w :: rest => ofWritten w :: ofWrittenItems rest

def ofWrittenMembers : List (List Json.Piece × Json.Written) → List (Option String × Setting)
  | [] => []
  | (key, w) :: rest => (Json.textOf? key, ofWritten w) :: ofWrittenMembers rest

end

mutual

/-- The setting that a TOML value writes. A date or time counts as a table of which no member is
known. -/
def ofToml : Toml.Value → Setting
  | .string s => .text s
  | .integer n => .integer n
  | .float x => .decimal x
  | .boolean b => .flag b
  | .moment => .table []
  | .array items => .list (ofTomlItems items)
  | .table members => .table (ofTomlMembers members)

def ofTomlItems : List Toml.Value → List Setting
  | [] => []
  | v :: rest => ofToml v :: ofTomlItems rest

def ofTomlMembers : List (String × Toml.Value) → List (Option String × Setting)
  | [] => []
  | (key, v) :: rest => (some key, ofToml v) :: ofTomlMembers rest

end

def ofJsonText? (text : String) : Option Setting :=
  match Json.Written.ofChars text.toList with
  | .ok w => some (ofWritten w)
  | .error _ => none

def ofTomlText? (text : String) : Option Setting :=
  (Toml.parse text).map fun members => .table (ofTomlMembers members)

def given (key : String) (members : List (Option String × Setting)) : List Setting :=
  members.filterMap fun m => if m.1 = some key then some m.2 else none

/-- What is given for each of the known keys, in their order. A table may give each known key
once; a list gives their values one after the other and may end early. -/
def fields? (keys : List String) : Setting → Option (List (Option Setting))
  | table members =>
    if members.any (·.1.isNone) then none
    else keys.mapM fun key =>
      match given key members with
      | [] => some none
      | [v] => some (some v)
      | _ => none
  | list items =>
    if keys.length < items.length then none
    else some (items.map some ++ List.replicate (keys.length - items.length) none)
  | _ => none

def textOr (default : String) : Option Setting → Option String
  | none => some default
  | some (text s) => some s
  | some _ => none

def flagOr (default : Bool) : Option Setting → Option Bool
  | none => some default
  | some (flag b) => some b
  | some _ => none

def word32Or (default : UInt32) : Option Setting → Option UInt32
  | none => some default
  | some (integer n) => if 0 ≤ n ∧ n < 0x100000000 then some (UInt32.ofNat n.toNat) else none
  | some _ => none

def word64Or (default : UInt64) : Option Setting → Option UInt64
  | none => some default
  | some (integer n) => if 0 ≤ n ∧ n < 0x10000000000000000 then some (UInt64.ofNat n.toNat) else none
  | some _ => none

def numberOr (default : Binary64) : Option Setting → Option Binary64
  | none => some default
  | some (decimal x) => some x
  | some (integer n) => some (.ofInt n)
  | some _ => none

end Setting

end TwinCatalogue
