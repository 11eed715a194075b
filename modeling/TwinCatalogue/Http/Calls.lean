import TwinCatalogue.Call
import TwinCatalogue.Config.Basic
import TwinCatalogue.Http.Message

/-!
The calls as messages: which address each one goes to, and how it carries its identifier, its
token and its document.
-/

namespace TwinCatalogue.Http

/-- A catalogue: its address, without slashes at the end, and the time limits for its calls. -/
structure Store where
  baseUrl : String
  limits : Limits
  deriving DecidableEq, Repr

def Store.ofEndpoint (e : StoreEndpoint) : Store :=
  ⟨Text.trimEndSlashes e.baseUrl, ⟨e.connectTimeout.toNat, e.requestTimeout.toNat⟩⟩

def Store.collection (s : Store) (kind : EntityKind) : String := s.baseUrl ++ "/" ++ kind.name

def tokenHeader (token : Token) : String × String := ("token", token.secret)

def filterPairs (filters : List String) : List (String × String) :=
  if filters.isEmpty then [] else [("filter", "[" ++ String.intercalate "," filters ++ "]")]

def Store.draft (s : Store) (call : StoreCall) (token : Token) : Draft :=
  match call with
  | .create kind doc =>
    ⟨.post, s.collection kind, [], [tokenHeader token], some doc.toJson, s.limits⟩
  | .update kind doc =>
    ⟨.put, s.collection kind, [], [tokenHeader token], some doc.toJson, s.limits⟩
  | .delete kind id path =>
    let address :=
      match path with
      | some path => s.collection kind ++ "/" ++ Text.trimSlashes path
      | none => s.collection kind
    ⟨.delete, address, [("id", id)], [tokenHeader token], none, s.limits⟩
  | .get kind id => ⟨.get, s.collection kind, [("id", id)], [tokenHeader token], none, s.limits⟩
  | .related id relation filters =>
    ⟨.get, s.baseUrl ++ "/relationship", [("id", id), ("rel", relation)] ++ filterPairs filters,
      [tokenHeader token], none, s.limits⟩

/-- The address of a resource server as it is called: without white space and slashes at its end,
and with a scheme. -/
def normalizeBaseUrl (raw : String) : String :=
  let trimmed := Text.trimEndSlashes (Text.trim raw)
  if Config.isHttpUrl trimmed then trimmed else "https://" ++ trimmed

def ingestionAddress (url : String) : String := normalizeBaseUrl url ++ "/ngsi-ld/v1/ingestion"

def registration (limits : Limits) (url id : String) (token : Token) : Draft :=
  ⟨.post, ingestionAddress url, [], [tokenHeader token],
    some (.object [("entities", .array [.object [("id", .string id)]])]), limits⟩

def deregistration (limits : Limits) (url id : String) (token : Token) : Draft :=
  ⟨.delete, ingestionAddress url, [("id", id)], [tokenHeader token], none, limits⟩

def minting (e : TokenEndpoint) : Draft :=
  ⟨.post, e.url, [], [("clientid", e.clientId), ("clientsecret", e.clientSecret)],
    some (.object [("itemId", .string e.itemId), ("itemType", .string "resource_server"),
      ("role", .string "admin")]),
    ⟨e.timeout.toNat, e.timeout.toNat⟩⟩

def serverLimits (c : Config) : Limits :=
  ⟨c.resourceServer.connectTimeout.toNat, c.resourceServer.requestTimeout.toNat⟩

def draft (c : Config) : Call → Draft
  | .store .localSide call token => (Store.ofEndpoint c.localStore).draft call token
  | .store .centralSide call token => (Store.ofEndpoint c.centralStore).draft call token
  | .register url id token => registration (serverLimits c) url id token
  | .deregister url id token => deregistration (serverLimits c) url id token

end TwinCatalogue.Http
