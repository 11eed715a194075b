import TwinCatalogue.Json.Basic
import TwinCatalogue.Number.Shortest
import TwinCatalogue.Text.Quoted

/-!
JSON values as text: on one line, or over several with two blanks for each level.
-/

namespace TwinCatalogue.Json

/-- A character inside a string. Only quotes, backslashes and control characters of ASCII are
escaped. -/
def escape (c : Char) : String :=
  if c = '"' then "\\\""
  else if c = '\\' then "\\\\"
  else if c = '\x08' then "\\b"
  else if c = '\x0c' then "\\f"
  else if c = '\n' then "\\n"
  else if c = '\r' then "\\r"
  else if c = '\t' then "\\t"
  else if c.toNat < 32 then
    "\\u00" ++ (if c.toNat < 16 then "0" else "") ++ Text.hex c.toNat
  else c.toString

def quote (s : String) : String := "\"" ++ String.join (s.toList.map escape) ++ "\""

def decimalText (x : Binary64) : String := x.json?.getD "null"

mutual

def compact : Json → String
  | .null => "null"
  | .bool b => if b then "true" else "false"
  | .integer n => toString n
  | .decimal x => decimalText x
  | .string s => quote s
  | .array items => "[" ++ String.intercalate "," (compactItems items) ++ "]"
  | .object members => "\x7b" ++ String.intercalate "," (compactMembers members) ++ "\x7d"

def compactItems : List Json → List String
  | [] => []
  | v :: rest => v.compact :: compactItems rest

def compactMembers : List (String × Json) → List String
  | [] => []
  | (key, v) :: rest => (quote key ++ ":" ++ v.compact) :: compactMembers rest

end

/-- Entries over several lines between brackets, each behind the blanks of its level. -/
def block (opening closing indent : String) (entries : List String) : String :=
  if entries.isEmpty then opening ++ closing
  else
    opening ++ "\n" ++ String.intercalate ",\n" (entries.map (indent ++ "  " ++ ·)) ++
      "\n" ++ indent ++ closing

mutual

def prettyWith (indent : String) : Json → String
  | .array items => block "[" "]" indent (prettyItems (indent ++ "  ") items)
  | .object members => block "\x7b" "\x7d" indent (prettyMembers (indent ++ "  ") members)
  | v => compact v

def prettyItems (indent : String) : List Json → List String
  | [] => []
  | v :: rest => prettyWith indent v :: prettyItems indent rest

def prettyMembers (indent : String) : List (String × Json) → List String
  | [] => []
  | (key, v) :: rest => (quote key ++ ": " ++ prettyWith indent v) :: prettyMembers indent rest

end

def pretty (v : Json) : String := prettyWith "" v

end TwinCatalogue.Json
