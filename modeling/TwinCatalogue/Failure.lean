import TwinCatalogue.Entity
import TwinCatalogue.Text.Quoted

/-!
What can go wrong. A catalogue or resource server fails with a `StoreError`, the token service
with a `TokenError`; a caller is told an `OnboardError`, whose envelope names a status, a type,
a title and a detail.
-/

namespace TwinCatalogue

/-- How a call to a catalogue or a resource server fails. -/
inductive StoreError where
  | status (code : Nat) (message : String)
  | timeout (url : String)
  | hostResolution (url reason : String)
  | transport (url reason : String)
  | decode (url reason : String)
  deriving DecidableEq, Repr

namespace StoreError

def message : StoreError → String
  | status code message => "upstream returned " ++ toString code ++ ": " ++ message
  | timeout url => "timed out calling " ++ url
  | hostResolution url reason => "cannot resolve host for " ++ url ++ ": " ++ reason
  | transport url reason => "transport error calling " ++ url ++ ": " ++ reason
  | decode url reason => "undecodable response from " ++ url ++ ": " ++ reason

/-- Errors that may go away: an answer with another status, no answer in time, a broken
connection. -/
def recoverable : StoreError → Bool
  | status _ _ => true
  | timeout _ => true
  | transport _ _ => true
  | _ => false

def unrecoverable : StoreError → Bool
  | hostResolution _ _ => true
  | _ => false

def status? : StoreError → Option Nat
  | status code _ => some code
  | _ => none

end StoreError

structure TokenError where
  reason : String
  deriving DecidableEq, Repr

def TokenError.message (e : TokenError) : String := "token service: " ++ e.reason

inductive OnboardError where
  | invalidTarget (target : String)
  | store (error : StoreError)
  | remote (code : Nat) (message : String)
  | internal (reason : String)
  | connectTimeout (url : String)
  | token (error : TokenError)
  | missingIdentifier (kind : EntityKind)
  deriving DecidableEq, Repr

def Side.invalidMessage (target : String) : String := "invalid store target: " ++ Text.quoted target

structure Envelope where
  type : String
  status : Nat
  title : String
  detail : String
  deriving DecidableEq, Repr

namespace OnboardError

def message : OnboardError → String
  | invalidTarget target => Side.invalidMessage target
  | store error => error.message
  | remote code message => "upstream failure " ++ toString code ++ ": " ++ message
  | internal reason => "internal error: " ++ reason
  | connectTimeout url => "connect timeout calling " ++ url
  | token error => error.message
  | missingIdentifier kind => kind.name ++ " request carries no identifier"

/-- The error told when a call is given up: the answer of the other side as it was, or else an
internal error with the wording of what happened. -/
def ofTerminal : StoreError → OnboardError
  | .status code message => remote code message
  | error => internal error.message

def statusCode : OnboardError → Nat
  | invalidTarget _ => 400
  | missingIdentifier _ => 400
  | store error => error.status?.getD 500
  | remote code _ => code
  | connectTimeout _ => 504
  | internal _ => 500
  | token _ => 500

def category : OnboardError → String × String
  | invalidTarget _ => ("urn:dx:cat:InvalidParamValue", "Invalid target")
  | missingIdentifier _ => ("urn:dx:cat:InvalidSyntax", "Missing identifier")
  | store _ => ("urn:dx:cat:UpstreamFailure", "Upstream failure")
  | remote _ _ => ("urn:dx:cat:UpstreamFailure", "Upstream failure")
  | connectTimeout _ => ("urn:dx:rs:ConnectTimeout", "Connect timeout")
  | internal _ => ("urn:dx:cat:InternalError", "Internal Server Error")
  | token _ => ("urn:dx:cat:InternalError", "Internal Server Error")

def envelope (e : OnboardError) : Envelope :=
  { type := e.category.1
    status := e.statusCode
    title := e.category.2
    detail := e.message }

end OnboardError

def Envelope.document (e : Envelope) : Document :=
  .ofMembers [("type", .string e.type), ("status", .integer e.status),
    ("title", .string e.title), ("detail", .string e.detail)]

end TwinCatalogue
