import TwinCatalogue.Url.Form
import TwinCatalogue.Url.Host

/-!
Web addresses, taken apart: scheme, credentials, host, port, the segments of the path, query and
fragment. All parts are kept as they stand in the text of the address, with whatever needs it
percent-encoded.
-/

namespace TwinCatalogue

inductive Scheme where
  | http
  | https
  deriving DecidableEq, Repr

namespace Scheme

def name : Scheme → String
  | http => "http"
  | https => "https"

def port : Scheme → Nat
  | http => 80
  | https => 443

end Scheme

structure Url where
  scheme : Scheme
  user : String
  password : Option String
  host : Host
  port : Option Nat
  path : List String
  query : Option String
  fragment : Option String
  deriving DecidableEq, Repr

namespace Url

def pathText (u : Url) : String := String.join (u.path.map ("/" ++ ·))

def credentials (u : Url) : String :=
  match u.password with
  | some password => u.user ++ ":" ++ password ++ "@"
  | none => if u.user = "" then "" else u.user ++ "@"

def marked (mark : String) : Option String → String
  | none => ""
  | some s => mark ++ s

def render (u : Url) : String :=
  u.scheme.name ++ "://" ++ u.credentials ++ u.host.render ++
    marked ":" (u.port.map toString) ++ u.pathText ++ marked "?" u.query ++
    marked "#" u.fragment

def withoutCredentials (u : Url) : Url := { u with user := "", password := none }

def withoutFragment (u : Url) : Url := { u with fragment := none }

def withPairs (u : Url) (pairs : List (String × String)) : Url :=
  match pairs with
  | [] => u
  | pairs =>
    let added := String.ofList (Form.encode pairs)
    match u.query with
    | none => { u with query := some added }
    | some query => { u with query := some (if query = "" then added else query ++ "&" ++ added) }

def pairs (u : Url) : List (String × String) :=
  match u.query with
  | none => []
  | some query => Form.decode query.toList

def sendable (u : Url) : Bool :=
  u.host.render.toList.all fun c => !"\"`\x7b\x7d".toList.contains c

end Url

end TwinCatalogue
