import TwinCatalogue.Text.Unprintable

/-!
Quoted text for messages and diagnostics: between double quotes, with every character that a
reader could not see or could mistake written as an escape.
-/

namespace TwinCatalogue.Text

def hex (n : Nat) : String :=
  String.ofList (Nat.toDigits 16 n)

def escapeChar (c : Char) : String :=
  if c = '\t' then "\\t"
  else if c = '\r' then "\\r"
  else if c = '\n' then "\\n"
  else if c = '"' then "\\\""
  else if c = '\\' then "\\\\"
  else if c.toNat = 0 then "\\0"
  else if isUnprintable c then "\\u\x7b" ++ hex c.toNat ++ "\x7d"
  else c.toString

def quoted (s : String) : String :=
  "\"" ++ String.join (s.toList.map escapeChar) ++ "\""

def quotedOption : Option String → String
  | none => "None"
  | some s => "Some(" ++ quoted s ++ ")"

end TwinCatalogue.Text
