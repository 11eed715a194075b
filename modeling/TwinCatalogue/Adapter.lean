import TwinCatalogue.Retry.Run
import TwinCatalogue.Text.Blank

/-!
Ingestion adapters. The resource server of an item is found through the local catalogue, which is
asked once; registering and deregistering an adapter there is retried.
-/

namespace TwinCatalogue.Adapter

variable {σ : Type}

def relation : String := "resourceServer"

def urlKey : String := "resourceServerRegURL"

/-- What an answer says about the address: the member at the top, or else that of the first of
the results. -/
def urlMember (related : Document) : Option Json :=
  match related.get? urlKey with
  | some value => some value
  | none => ((related.get? "results").bind Json.first?).bind (Json.get? urlKey)

def registrationUrl (related : Document) : Option String :=
  ((urlMember related).bind Json.text?).filter fun url => !Text.blank url

def resolve (id : String) (token : Token) : Activity σ (Except OnboardError String) := do
  match ← Activity.call (.store .localSide (.related id relation [urlKey]) token) with
  | .error error => return .error (.ofTerminal error)
  | .ok related =>
    match registrationUrl related with
    | some url => return .ok url
    | none => return .error (.internal ("no " ++ urlKey ++ " related to item " ++ id))

/-- What a caller is told when a resource server fails: that it did not answer in time, or else
an internal error. -/
def failure : StoreError → OnboardError
  | .timeout url => .connectTimeout url
  | error => .internal error.message

/-- Registers the adapter of an item. If that is given up, the item is taken back from both
catalogues. -/
def create (p : RetryPolicy) (id : String) (token : Token) :
    Activity σ (Except OnboardError Document) := do
  match ← resolve id token with
  | .error error => return .error error
  | .ok url =>
    Activity.log (.registering id url)
    match (← p.retrying (Activity.call (.register url id token))).toExcept with
    | .ok doc => return .ok doc
    | .error error =>
      Activity.count .primaryFailures
      Activity.log (.registrationFailed id url error)
      Activity.dispatch (.rollback id token)
      return .error (failure error)

def delete (p : RetryPolicy) (id : String) (token : Token) :
    Activity σ (Except OnboardError Document) := do
  match ← resolve id token with
  | .error error => return .error error
  | .ok url =>
    Activity.log (.deregistering id url)
    match (← p.retrying (Activity.call (.deregister url id token))).toExcept with
    | .ok doc => return .ok doc
    | .error error =>
      Activity.count .primaryFailures
      Activity.log (.deregistrationFailed id url error)
      return .error (failure error)

end TwinCatalogue.Adapter
