import TwinCatalogue.Config.Setting
import TwinCatalogue.Number.Shortest
import TwinCatalogue.Retry.Policy
import TwinCatalogue.Text.Blank

/-!
The configuration: where the remote systems are, and how calls are retried. It is read from a
file in TOML or JSON, each missing value has a default, and what the engine could not run with
is refused.
-/

namespace TwinCatalogue

/-- Where a catalogue is. Times are in milliseconds. -/
structure StoreEndpoint where
  baseUrl : String
  connectTimeout : UInt64
  requestTimeout : UInt64
  deriving DecidableEq, Repr

structure TokenEndpoint where
  url : String
  clientId : String
  clientSecret : String
  itemId : String
  timeout : UInt64
  deriving DecidableEq, Repr

structure ResourceServerSettings where
  connectTimeout : UInt64
  requestTimeout : UInt64
  deriving DecidableEq, Repr

structure RetrySettings where
  maxAttempts : UInt32
  floor : UInt64
  ceiling : UInt64
  multiplier : Binary64
  jitter : Bool
  deriving DecidableEq, Repr

structure Config where
  localStore : StoreEndpoint
  centralStore : StoreEndpoint
  token : TokenEndpoint
  resourceServer : ResourceServerSettings
  retry : RetrySettings
  deriving DecidableEq, Repr

inductive ConfigError where
  | unreadable
  | notToml
  | notJson
  | unsupportedExtension (extension : String)
  | invalid (reason : String)
  deriving DecidableEq, Repr

namespace ConfigError

def message : ConfigError → String
  | unreadable => "cannot read config"
  | notToml => "invalid TOML config"
  | notJson => "invalid JSON config"
  | unsupportedExtension extension =>
    "unsupported config file extension: " ++ Text.quoted extension
  | invalid reason => "invalid config value: " ++ reason

end ConfigError

namespace StoreEndpoint

def standard : StoreEndpoint := ⟨"http://localhost:8443/iudx/cat/v1", 5000, 30000⟩

def ofSetting? (s : Setting) : Option StoreEndpoint := do
  match ← s.fields? ["base_url", "connect_timeout_ms", "request_timeout_ms"] with
  | [url, connect, request] =>
    return ⟨← Setting.textOr standard.baseUrl url,
      ← Setting.word64Or standard.connectTimeout connect,
      ← Setting.word64Or standard.requestTimeout request⟩
  | _ => none

end StoreEndpoint

namespace TokenEndpoint

def standard : TokenEndpoint := ⟨"http://localhost:8443/auth/v1/token", "", "", "", 10000⟩

def ofSetting? (s : Setting) : Option TokenEndpoint := do
  match ← s.fields? ["url", "client_id", "client_secret", "item_id", "timeout_ms"] with
  | [url, client, secret, item, timeout] =>
    return ⟨← Setting.textOr standard.url url, ← Setting.textOr standard.clientId client,
      ← Setting.textOr standard.clientSecret secret, ← Setting.textOr standard.itemId item,
      ← Setting.word64Or standard.timeout timeout⟩
  | _ => none

end TokenEndpoint

namespace ResourceServerSettings

def standard : ResourceServerSettings := ⟨5000, 30000⟩

def ofSetting? (s : Setting) : Option ResourceServerSettings := do
  match ← s.fields? ["connect_timeout_ms", "request_timeout_ms"] with
  | [connect, request] =>
    return ⟨← Setting.word64Or standard.connectTimeout connect,
      ← Setting.word64Or standard.requestTimeout request⟩
  | _ => none

end ResourceServerSettings

namespace RetrySettings

def standard : RetrySettings := ⟨5, 1000, 10000, .ofNat 2, true⟩

def ofSetting? (s : Setting) : Option RetrySettings := do
  match ← s.fields? ["max_attempts", "backoff_floor_ms", "backoff_ceiling_ms",
    "backoff_multiplier", "jitter"] with
  | [attempts, floor, ceiling, multiplier, jitter] =>
    return ⟨← Setting.word32Or standard.maxAttempts attempts,
      ← Setting.word64Or standard.floor floor, ← Setting.word64Or standard.ceiling ceiling,
      ← Setting.numberOr standard.multiplier multiplier, ← Setting.flagOr standard.jitter jitter⟩
  | _ => none

/-- The policy that follows the settings: errors that may go away are retried, those that will
not end the attempts. -/
def policy (s : RetrySettings) : RetryPolicy :=
  { maxAttempts := s.maxAttempts
    floor := .ofMillis s.floor
    ceiling := .ofMillis s.ceiling
    multiplier := s.multiplier
    jitter := s.jitter
    retryOn := StoreError.recoverable
    abortOn := StoreError.unrecoverable }

end RetrySettings

namespace Config

def standard : Config :=
  ⟨.standard, .standard, .standard, .standard, .standard⟩

def partOr {α : Type} (default : α) (read : Setting → Option α) : Option Setting → Option α
  | none => some default
  | some s => read s

def ofSetting? (s : Setting) : Option Config := do
  match ← s.fields? ["local", "central", "token", "resource_server", "retry"] with
  | [nearby, central, token, server, retry] =>
    return ⟨← partOr .standard StoreEndpoint.ofSetting? nearby,
      ← partOr .standard StoreEndpoint.ofSetting? central,
      ← partOr .standard TokenEndpoint.ofSetting? token,
      ← partOr .standard ResourceServerSettings.ofSetting? server,
      ← partOr .standard RetrySettings.ofSetting? retry⟩
  | _ => none

def isHttpUrl (url : String) : Bool :=
  Text.startsWith url "http://" || Text.startsWith url "https://"

def urls (c : Config) : List (String × String) :=
  [("local.base_url", c.localStore.baseUrl), ("central.base_url", c.centralStore.baseUrl),
    ("token.url", c.token.url)]

def problem? (c : Config) : Option String :=
  if c.retry.maxAttempts = 0 then some "retry.max_attempts must be at least 1"
  else if c.retry.ceiling < c.retry.floor then
    some ("retry.backoff_floor_ms (" ++ toString c.retry.floor.toNat ++
      ") exceeds retry.backoff_ceiling_ms (" ++ toString c.retry.ceiling.toNat ++ ")")
  else if !(Binary64.ofNat 1).atMost c.retry.multiplier then
    some ("retry.backoff_multiplier must be >= 1, got " ++ c.retry.multiplier.display)
  else
    (c.urls.find? fun u => !isHttpUrl u.2).map fun u =>
      u.1 ++ " must be an http(s) URL, got " ++ Text.quoted u.2

/-- The extension of a file name: what follows its last point, if something comes before. -/
def extension (name : String) : String :=
  let last := ((name.toList.reverse.takeWhile (· != '/')).reverse)
  let after := (last.reverse.takeWhile (· != '.')).reverse
  if after.length + 1 < last.length ∧ last ≠ ['.', '.'] then String.ofList after else ""

def parse (extension text : String) : Except ConfigError Config :=
  let format := Text.lowerAscii extension
  if format = "toml" then
    match (Setting.ofTomlText? text).bind ofSetting? with
    | some c => .ok c
    | none => .error .notToml
  else if format = "json" then
    match (Setting.ofJsonText? text).bind ofSetting? with
    | some c => .ok c
    | none => .error .notJson
  else .error (.unsupportedExtension extension)

/-- Loads the configuration from a file of which the name and the text are given; without text the
file could not be read. -/
def load (name : String) (text : Option String) : Except ConfigError Config :=
  match text with
  | none => .error .unreadable
  | some text =>
    match parse (extension name) text with
    | .error e => .error e
    | .ok c =>
      match c.problem? with
      | some reason => .error (.invalid reason)
      | none => .ok c

end Config

end TwinCatalogue
