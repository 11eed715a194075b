import TwinCatalogue.CommandLine.Invocation
import TwinCatalogue.Counters.Timeline
import TwinCatalogue.Http.Network
import TwinCatalogue.Json.Printing
import TwinCatalogue.Verb

/-!
Running an invocation: load the configuration, do what the command says, wait for repairs, write
the counters to a file if one is named, and report the outcome.
-/

namespace TwinCatalogue.CommandLine

abbrev Files := String → Except String String

/-- What the program ends with: its exit code, what it prints, and what it complains about. -/
structure Report where
  code : Nat
  output : String
  complaint : String
  deriving DecidableEq, Repr

/-- What is left to do after a command: the counters to be written to a file, if one is named, and
the report, which depends on whether they could be. -/
structure Conclusion where
  metrics : Option (String × String)
  report : Except String Unit → Report

namespace Report

def printed (v : Json) : String := v.pretty ++ "\n"

def failed (message : String) : Report := ⟨1, "", "Error: " ++ message ++ "\n"⟩

def failedBecause (message cause : String) : Report :=
  ⟨1, "", "Error: " ++ message ++ "\n\nCaused by:\n    " ++ cause ++ "\n"⟩

/-- What is left of a program that aborts itself, with the code that a shell gives it. -/
def aborted : Report := ⟨134, "", "overflow when adding duration to instant\n"⟩

def ofOutcome : Except OnboardError Document → Report
  | .ok doc => ⟨0, printed doc.toJson, ""⟩
  | .error e => ⟨1, printed e.envelope.document.toJson, "Error: " ++ e.message ++ "\n"⟩

end Report

def Conclusion.only (r : Report) : Conclusion := ⟨none, fun _ => r⟩

def readDocument (files : Files) (path : String) : Except String Document :=
  match files path with
  | .error reason => .error ("reading " ++ path ++ ": " ++ reason)
  | .ok text =>
    match Json.parse text with
    | .error e => .error ("parsing " ++ path ++ ": " ++ e.message)
    | .ok (.object members) => .ok ⟨members⟩
    | .ok _ => .error (path ++ " must contain a JSON object")

/-- The request for an operation on a single catalogue. An identifier that is named takes the
place of the one in the file. -/
def entityRequest (kind : EntityKind) (file : Option Document) (arguments : EntityArguments)
    (token : Token) : Request :=
  let body := file.getD .empty
  { body :=
      match arguments.id with
      | some id => body.insert kind.idKey (.string id)
      | none => body
    path := arguments.path
    token := token }

def readOptional (files : Files) : Option String → Except String (Option Document)
  | none => .ok none
  | some path => (readDocument files path).map some

/-- What a command asks the engine for. Checking the configuration asks for nothing. -/
def Command.verb (files : Files) (token : Token) :
    Command → Except OnboardError (Option Verb)
  | .entity kind operation arguments =>
    match readOptional files arguments.file with
    | .error reason => .error (.internal reason)
    | .ok file =>
      .ok (some (.execute kind operation (entityRequest kind file arguments token) arguments.target))
  | .createAdapter id => .ok (some (.createAdapter id token))
  | .deleteAdapter id => .ok (some (.deleteAdapter id token))
  | .onboardItem path =>
    match readDocument files path with
    | .error reason => .error (.internal reason)
    | .ok body => .ok (some (.onboardItem body token))
  | .offboardItem id => .ok (some (.offboardItem id token))
  | .checkConfig => .ok none

/-- The counters when the program stops waiting for repairs: at once if none is in flight, and
else when none is left or the grace is over. There are none if the clock, which showed `clock` when
the command began, cannot show the end of the grace. -/
def drain {σ α : Type} (clock : Nat) (grace : UInt64) (s : Settled σ α) : Option Counters :=
  let returned := Event.counters .zero s.call.events
  if returned.inFlight = 0 then some returned
  else
    let now := clock + Event.duration s.call.events
    let timeline : Timeline := ⟨now, returned, Event.timedCounters now s.repairs.events⟩
    (timeline.waitIdle (grace.toNat * 1000)).map (·.2.counters)

def retrySummary (s : RetrySettings) : Json :=
  (Document.ofMembers
    [("max_attempts", .integer s.maxAttempts.toNat), ("backoff_floor_ms", .integer s.floor.toNat),
      ("backoff_ceiling_ms", .integer s.ceiling.toNat),
      ("backoff_multiplier", .decimal s.multiplier), ("jitter", .bool s.jitter)]).toJson

def summary (c : Config) : Json :=
  (Document.ofMembers
    [("valid", .bool true), ("local", .string c.localStore.baseUrl),
      ("central", .string c.centralStore.baseUrl), ("token", .string c.token.url),
      ("retry", retrySummary c.retry)]).toJson

/-- The conclusion of a command with a given outcome. Without the file for the counters nothing is
printed, and neither is without the counters. -/
def conclude (metricsFile : Option String) (counters : Option Counters)
    (outcome : Except OnboardError Document) : Conclusion :=
  match counters, metricsFile with
  | none, _ => .only .aborted
  | some _, none => .only (.ofOutcome outcome)
  | some counters, some path =>
    { metrics := some (path, counters.prometheus)
      report := fun written =>
        match written with
        | .ok () => .ofOutcome outcome
        | .error reason => .failedBecause ("writing " ++ path) reason }

def perform {σ : Type} (files : Files) (p : RetryPolicy) (clock : Nat) (grace : UInt64)
    (token : Token) (command : Command) (w : World σ) (s : σ) :
    Except OnboardError Document × Option Counters × σ :=
  match command.verb files token with
  | .error e => (.error e, some .zero, s)
  | .ok none => (.ok .empty, some .zero, s)
  | .ok (some verb) =>
    let settled := verb.settle p w s
    (settled.call.result, drain clock grace settled, settled.repairs.after)

def Invocation.run {σ : Type} (files : Files) (clock : Nat) (world : Config → World σ) (s : σ)
    (i : Invocation) : Conclusion × σ :=
  match Config.load i.config (files i.config).toOption with
  | .error e => (.only (.failedBecause ("loading " ++ i.config) e.message), s)
  | .ok config =>
    if i.command = .checkConfig then (.only ⟨0, Report.printed (summary config), ""⟩, s)
    else
      match i.token with
      | none => (.only (.failed "caller token required (--token or ONBOARD_TOKEN)"), s)
      | some token =>
        let (outcome, counters, s') :=
          perform files config.retry.policy clock i.grace ⟨token⟩ i.command (world config) s
        (conclude i.metricsFile counters outcome, s')

def usage : String :=
  "Usage: onboard [OPTIONS] <COMMAND>\n\n" ++
    "Commands: item, instance, domain, adapter, onboard-item, offboard-item, check-config\n"

def Refusal.report : Refusal → Report
  | refused => ⟨2, "", usage⟩
  | help => ⟨0, usage, ""⟩

/-- The program, given the files, what the clock shows, and its token and arguments. -/
def run {σ : Type} (files : Files) (clock : Nat) (environmentToken : Option String)
    (arguments : List String) (world : Config → World σ) (s : σ) : Conclusion × σ :=
  match Invocation.parse environmentToken arguments with
  | .error refusal => (.only refusal.report, s)
  | .ok invocation => invocation.run files clock world s

end TwinCatalogue.CommandLine
