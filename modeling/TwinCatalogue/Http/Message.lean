import TwinCatalogue.Json.Basic
import TwinCatalogue.Url.Reading

/-!
Messages to remote systems. A draft says what is to be sent; it becomes a message if its address
can be read and its header values can stand in a header.
-/

namespace TwinCatalogue.Http

inductive Method where
  | get
  | post
  | put
  | delete
  deriving DecidableEq, Repr

def Method.name : Method → String
  | get => "GET"
  | post => "POST"
  | put => "PUT"
  | delete => "DELETE"

/-- Time limits in milliseconds, for connecting and for the whole exchange. -/
structure Limits where
  connect : Nat
  exchange : Nat
  deriving DecidableEq, Repr

/-- What is to be sent: to which address, with which pairs behind its query, with which headers
and which body. -/
structure Draft where
  method : Method
  address : String
  pairs : List (String × String)
  headers : List (String × String)
  body : Option Json
  limits : Limits
  deriving Repr

/-- What goes out. Credentials in an address are no part of the address that is called. -/
structure Message where
  method : Method
  url : Url
  headers : List (String × String)
  body : Option Json
  credentials : String
  limits : Limits
  deriving Repr

inductive DraftFault where
  | address (fault : UrlFault)
  | header
  | host (url : Url)
  deriving DecidableEq, Repr

def DraftFault.causes : DraftFault → List String
  | address fault => ["builder error", fault.message]
  | header => ["builder error", "failed to parse header value"]
  | host url => ["builder error for url (" ++ url.render ++ ")", "Parsed Url is not a valid Uri"]

/-- Whether a text can be the value of a header: it has no control character but the tab. -/
def isHeaderValue (s : String) : Bool :=
  s.toList.all fun c => c == '\t' || (32 ≤ c.toNat && c.toNat != 127)

def Draft.allHeaders (d : Draft) : List (String × String) :=
  d.headers ++ if d.body.isSome then [("content-type", "application/json")] else []

def Draft.message (d : Draft) : Except DraftFault Message :=
  match Url.parse d.address with
  | .error fault => .error (.address fault)
  | .ok parsed =>
    let url := parsed.withoutCredentials.withPairs d.pairs
    if !d.headers.all (fun h => isHeaderValue h.2) then .error .header
    else if !url.sendable then .error (.host url)
    else
      .ok
        { method := d.method
          url := url
          headers := d.allHeaders
          body := d.body
          credentials := parsed.credentials
          limits := d.limits }

end TwinCatalogue.Http
