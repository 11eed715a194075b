import TwinCatalogue.Text.Blank
import TwinCatalogue.Url.Host

/-!
Options on a command line. Each level of a command has options and names of further commands; a
level is read up to the first such name. The value of an option stands behind an equals sign,
behind the letter of a short option, or in the next argument.
-/

namespace TwinCatalogue.CommandLine

/-- Why arguments lead to no command: they are refused, or they ask for help. -/
inductive Refusal where
  | refused
  | help
  deriving DecidableEq, Repr

/-- What an option takes. A path is never empty, and a number has 64 bits. -/
inductive OptionValue where
  | nothing
  | text
  | path
  | number
  deriving DecidableEq, Repr

/-- An option: its name, the letter that may stand for it, and what it takes. -/
structure OptionRule where
  name : String
  short : Option Char
  value : OptionValue
  deriving DecidableEq, Repr

structure Level where
  options : List OptionRule
  commands : List String
  deriving DecidableEq, Repr

abbrev Given := List (String × String)

def number? (s : String) : Option Nat :=
  let digits :=
    match s.toList with
    | '+' :: rest => rest
    | cs => cs
  if digits.isEmpty || !digits.all Char.isDigit then none
  else (Host.ofDigits? 10 digits).filter (· < Nat.pow 2 64)

def OptionValue.admits : OptionValue → String → Bool
  | nothing, _ => false
  | text, _ => true
  | path, s => s != ""
  | number, s => (number? s).isSome

def Given.add (given : Given) (name value : String) : Except Refusal Given :=
  if (given.lookup name).isSome then .error .refused else .ok (given ++ [(name, value)])

def Given.addValue (given : Given) (rule : OptionRule) (value : String) : Except Refusal Given :=
  if rule.value.admits value then given.add rule.name value else .error .refused

inductive Argument where
  | command
  | endOfOptions
  | help
  | flag (rule : OptionRule)
  | attached (rule : OptionRule) (value : String)
  | awaiting (rule : OptionRule)
  | unknown
  deriving DecidableEq, Repr

def Level.longOption (l : Level) (name : String) (value : Option String) : Argument :=
  match l.options.find? (·.name == name) with
  | none => if name = "help" ∧ value = none then .help else .unknown
  | some rule =>
    match rule.value, value with
    | .nothing, none => .flag rule
    | .nothing, some _ => .unknown
    | _, none => .awaiting rule
    | _, some value => .attached rule value

def Level.shortOption (l : Level) (letter : Char) (rest : List Char) : Argument :=
  match l.options.find? (·.short == some letter) with
  | none => if letter = 'h' then .help else .unknown
  | some rule =>
    match rest with
    | [] => .awaiting rule
    | '=' :: value => .attached rule (String.ofList value)
    | value => .attached rule (String.ofList value)

def Level.argument (l : Level) (s : String) : Argument :=
  if l.commands.contains s then .command
  else if s = "help" ∧ !l.commands.isEmpty then .help
  else
    match s.toList with
    | ['-', '-'] => .endOfOptions
    | '-' :: '-' :: cs =>
      let value := (cs.dropWhile (· != '='))
      l.longOption (String.ofList (cs.takeWhile (· != '=')))
        (if value.isEmpty then none else some (String.ofList (value.drop 1)))
    | '-' :: letter :: rest => l.shortOption letter rest
    | _ => .unknown

/-- Whether an argument can be the value of the option before it. A single dash can. -/
def isValue (s : String) : Bool := s == "-" || !Text.startsWith s "-"

/-- Reads a level. The result holds the values of its options, and the name of the next command
with the arguments behind it. -/
def Level.read (l : Level) (given : Given) :
    List String → Except Refusal (Given × Option (String × List String))
  | [] => .ok (given, none)
  | s :: rest =>
    match l.argument s with
    | .command => .ok (given, some (s, rest))
    | .endOfOptions => if rest.isEmpty then .ok (given, none) else .error .refused
    | .help => .error .help
    | .unknown => .error .refused
    | .flag rule => do l.read (← given.add rule.name "") rest
    | .attached rule value => do l.read (← given.addValue rule value) rest
    | .awaiting rule =>
      match rest with
      | [] => .error .refused
      | value :: rest =>
        if isValue value then do l.read (← given.addValue rule value) rest else .error .refused

end TwinCatalogue.CommandLine
