import TwinCatalogue.CommandLine.Options
import TwinCatalogue.Entity

/-!
Invocations: what the arguments of the program ask for.
-/

namespace TwinCatalogue.CommandLine

/-- What an operation on a single catalogue is given. -/
structure EntityArguments where
  target : String
  file : Option String
  id : Option String
  path : Option String
  deriving DecidableEq, Repr

inductive Command where
  | entity (kind : EntityKind) (operation : Operation) (arguments : EntityArguments)
  | createAdapter (id : String)
  | deleteAdapter (id : String)
  | onboardItem (file : String)
  | offboardItem (id : String)
  | checkConfig
  deriving DecidableEq, Repr

/-- An invocation. The grace is the number of seconds that the program waits for repairs. -/
structure Invocation where
  config : String
  token : Option String
  logJson : Bool
  grace : UInt64
  metricsFile : Option String
  command : Command
  deriving DecidableEq, Repr

def defaultConfig : String := "/etc/onboard/onboard.toml"

def defaultGrace : UInt64 := 30

def rootLevel : Level :=
  { options :=
      [⟨"config", some 'c', .path⟩, ⟨"token", some 't', .text⟩, ⟨"log-json", none, .nothing⟩,
        ⟨"grace-secs", none, .number⟩, ⟨"metrics-file", none, .path⟩]
    commands :=
      EntityKind.all.map EntityKind.name ++
        ["adapter", "onboard-item", "offboard-item", "check-config"] }

def entityLevel : Level := ⟨[], Operation.all.map Operation.name⟩

def entityOptions : Level :=
  ⟨[⟨"target", none, .text⟩, ⟨"file", some 'f', .path⟩, ⟨"id", none, .text⟩,
    ⟨"path", none, .text⟩], []⟩

def adapterLevel : Level := ⟨[], ["create", "delete"]⟩

def idOption : Level := ⟨[⟨"id", none, .text⟩], []⟩

def fileOption : Level := ⟨[⟨"file", some 'f', .path⟩], []⟩

def required {α : Type} : Option α → Except Refusal α
  | none => .error .refused
  | some a => .ok a

def Level.values (l : Level) (arguments : List String) : Except Refusal Given := do
  return (← l.read [] arguments).1

def Level.command (l : Level) (arguments : List String) : Except Refusal (String × List String) := do
  required (← l.read [] arguments).2

def entityCommand (kind : EntityKind) (arguments : List String) : Except Refusal Command := do
  let (name, rest) ← entityLevel.command arguments
  let operation ← required (Operation.all.find? (·.name == name))
  let given ← entityOptions.values rest
  let target ← required (given.lookup "target")
  return .entity kind operation
    ⟨target, given.lookup "file", given.lookup "id", given.lookup "path"⟩

def Level.onlyValue (l : Level) (name : String) (arguments : List String) :
    Except Refusal String := do
  required ((← l.values arguments).lookup name)

def adapterCommand (arguments : List String) : Except Refusal Command := do
  let (name, rest) ← adapterLevel.command arguments
  let id ← idOption.onlyValue "id" rest
  return if name = "create" then .createAdapter id else .deleteAdapter id

def Command.parse (name : String) (arguments : List String) : Except Refusal Command :=
  match EntityKind.all.find? (·.name == name) with
  | some kind => entityCommand kind arguments
  | none =>
    if name = "adapter" then adapterCommand arguments
    else if name = "onboard-item" then do
      return .onboardItem (← fileOption.onlyValue "file" arguments)
    else if name = "offboard-item" then do
      return .offboardItem (← idOption.onlyValue "id" arguments)
    else if name = "check-config" then do
      let _ ← (Level.mk [] []).values arguments
      return .checkConfig
    else .error .refused

/-- The invocation that arguments ask for. A token that is not among them comes from the
environment. -/
def Invocation.parse (environmentToken : Option String) (arguments : List String) :
    Except Refusal Invocation := do
  let (given, next) ← rootLevel.read [] arguments
  let (name, rest) ← required next
  let command ← Command.parse name rest
  return {
    config := (given.lookup "config").getD defaultConfig
    token := (given.lookup "token").or environmentToken
    logJson := (given.lookup "log-json").isSome
    grace := (((given.lookup "grace-secs").bind number?).map UInt64.ofNat).getD defaultGrace
    metricsFile := given.lookup "metrics-file"
    command := command }

end TwinCatalogue.CommandLine
