import TwinCatalogue.Config.Basic
import TwinCatalogue.Json.Printing
import TwinCatalogue.Repair.Task

/-!
How values show themselves in diagnostics. Tokens and secrets never show: they are left out, or a
fixed word stands in their place.
-/

namespace TwinCatalogue

namespace Diagnostic

def redacted : String := "<redacted>"

def record (name : String) (fields : List (String × String)) : String :=
  name ++ " \x7b " ++ String.intercalate ", " (fields.map fun f => f.1 ++ ": " ++ f.2) ++ " \x7d"

def openRecord (name : String) (fields : List (String × String)) : String :=
  name ++ " \x7b " ++ String.join (fields.map fun f => f.1 ++ ": " ++ f.2 ++ ", ") ++ ".. \x7d"

def option (text : Option String) : String :=
  match text with
  | none => "None"
  | some s => "Some(" ++ s ++ ")"

end Diagnostic

mutual

def Json.diagnostic : Json → String
  | .null => "Null"
  | .bool b => "Bool(" ++ (if b then "true" else "false") ++ ")"
  | .integer n => "Number(" ++ toString n ++ ")"
  | .decimal x => "Number(" ++ Json.decimalText x ++ ")"
  | .string s => "String(" ++ Text.quoted s ++ ")"
  | .array items => "Array [" ++ String.intercalate ", " (Json.itemDiagnostics items) ++ "]"
  | .object members =>
    "Object \x7b" ++ String.intercalate ", " (Json.memberDiagnostics members) ++ "\x7d"

def Json.itemDiagnostics : List Json → List String
  | [] => []
  | v :: rest => Json.diagnostic v :: Json.itemDiagnostics rest

def Json.memberDiagnostics : List (String × Json) → List String
  | [] => []
  | (key, v) :: rest => (Text.quoted key ++ ": " ++ Json.diagnostic v) :: Json.memberDiagnostics rest

end

def Document.diagnostic (d : Document) : String :=
  "\x7b" ++ String.intercalate ", " (Json.memberDiagnostics d.members) ++ "\x7d"

def EntityKind.diagnostic : EntityKind → String
  | item => "Item"
  | inst => "Instance"
  | domain => "Domain"

def Operation.diagnostic : Operation → String
  | create => "Create"
  | update => "Update"
  | delete => "Delete"
  | get => "Get"

def Side.diagnostic : Side → String
  | localSide => "Local"
  | centralSide => "Central"

def Token.diagnostic (_ : Token) : String := "AdminToken(" ++ Diagnostic.redacted ++ ")"

def Request.diagnostic (r : Request) : String :=
  Diagnostic.record "MutationRequest"
    [("body", r.body.diagnostic), ("path", Text.quotedOption r.path),
      ("token", Text.quoted Diagnostic.redacted)]

def RepairTask.diagnostic (t : RepairTask) : String :=
  Diagnostic.openRecord "CompensationTask"
    [("kind", t.kind.diagnostic), ("operation", t.operation.diagnostic),
      ("failed", t.failed.diagnostic), ("action", t.action.name),
      ("id", Text.quotedOption t.id), ("path", Text.quotedOption t.path)]

def RepairTask.planDiagnostic (plan : Option RepairTask) : String :=
  Diagnostic.option (plan.map RepairTask.diagnostic)

def TokenEndpoint.diagnostic (e : TokenEndpoint) : String :=
  Diagnostic.record "TokenEndpoint"
    [("url", Text.quoted e.url), ("client_id", Text.quoted e.clientId),
      ("client_secret", Text.quoted Diagnostic.redacted), ("item_id", Text.quoted e.itemId),
      ("timeout_ms", toString e.timeout.toNat)]

def TokenEndpoint.clientDiagnostic (e : TokenEndpoint) : String :=
  Diagnostic.record "HttpTokenProvider"
    [("url", Text.quoted e.url), ("client_id", Text.quoted e.clientId),
      ("item_id", Text.quoted e.itemId)]

def StoreEndpoint.diagnostic (e : StoreEndpoint) : String :=
  Diagnostic.record "StoreEndpoint"
    [("base_url", Text.quoted e.baseUrl),
      ("connect_timeout_ms", toString e.connectTimeout.toNat),
      ("request_timeout_ms", toString e.requestTimeout.toNat)]

def ResourceServerSettings.diagnostic (s : ResourceServerSettings) : String :=
  Diagnostic.record "ResourceServerSettings"
    [("connect_timeout_ms", toString s.connectTimeout.toNat),
      ("request_timeout_ms", toString s.requestTimeout.toNat)]

def RetrySettings.diagnostic (s : RetrySettings) : String :=
  Diagnostic.record "RetrySettings"
    [("max_attempts", toString s.maxAttempts.toNat), ("backoff_floor_ms", toString s.floor.toNat),
      ("backoff_ceiling_ms", toString s.ceiling.toNat),
      ("backoff_multiplier", s.multiplier.diagnostic),
      ("jitter", if s.jitter then "true" else "false")]

def Config.diagnostic (c : Config) : String :=
  Diagnostic.record "OnboardConfig"
    [("local", c.localStore.diagnostic), ("central", c.centralStore.diagnostic),
      ("token", c.token.diagnostic), ("resource_server", c.resourceServer.diagnostic),
      ("retry", c.retry.diagnostic)]

/-- Whether the secret of a configuration happens to stand somewhere in its diagnostic text. -/
def Config.showsSecret (c : Config) : Bool :=
  c.token.clientSecret != "" &&
    Text.occursIn c.token.clientSecret.toList c.diagnostic.toList

end TwinCatalogue
