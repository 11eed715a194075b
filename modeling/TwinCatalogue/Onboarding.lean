import TwinCatalogue.Adapter
import TwinCatalogue.Dispatch
import TwinCatalogue.Repair.Restorable

/-!
Onboarding and offboarding: the same write on the local and then on the central catalogue, and
for items the adapter on their resource server.
-/

namespace TwinCatalogue.Onboarding

variable {σ : Type}

/-- The request for the central side: the local one, with the identifier that the local
catalogue gave if the body has none. The identifier comes with it. -/
def centralRequest (kind : EntityKind) (request : Request) (created : Document) :
    Option (Request × String) :=
  match request.identifier kind with
  | some id => some (request, id)
  | none =>
    (created.firstResult.bind kind.identifierOf).map fun id => (request.withId kind id, id)

/-- Creates an entity on both sides. The result is the answer of the central side and the
identifier that was written there. -/
def createBoth (p : RetryPolicy) (kind : EntityKind) (request : Request) :
    Activity σ (Except OnboardError (Document × String)) := do
  match ← executeOn p kind .create request .localSide with
  | .error error => return .error error
  | .ok created =>
    match centralRequest kind request created with
    | none => return .error (.missingIdentifier kind)
    | some (central, id) =>
      Activity.log (.createdLocally kind id)
      match ← executeOn p kind .create central .centralSide with
      | .error error => return .error error
      | .ok doc => return .ok (doc, id)

/-- Hands over the repair for an item whose adapter is gone while its local entry stays. -/
def restoreAdapter (kind : EntityKind) (request : Request) : Activity σ Unit :=
  match RepairTask.plan kind .delete .localSide request none with
  | none => pure ()
  | some task => do
    Activity.count .primaryFailures
    Activity.dispatch task

/-- Deletes an entity on both sides. `adapterRemoved` tells that its adapter was deregistered
before. -/
def deleteBoth (p : RetryPolicy) (kind : EntityKind) (request : Request) (adapterRemoved : Bool) :
    Activity σ (Except OnboardError Document) := do
  match ← executeOn p kind .delete request .localSide with
  | .error error =>
    if adapterRemoved then restoreAdapter kind request
    return .error error
  | .ok _ => executeOn p kind .delete request .centralSide

def onboard (p : RetryPolicy) (kind : EntityKind) (body : Document) (path : Option String)
    (token : Token) : Activity σ (Except OnboardError Document) := do
  match ← createBoth p kind ⟨body, path, token⟩ with
  | .error error => return .error error
  | .ok (doc, _) => return .ok doc

def onboardItem (p : RetryPolicy) (body : Document) (token : Token) :
    Activity σ (Except OnboardError Document) := do
  match ← createBoth p .item ⟨body, none, token⟩ with
  | .error error => return .error error
  | .ok (doc, id) =>
    match ← Adapter.create p id token with
    | .error error => return .error error
    | .ok _ => return .ok doc

def offboardItem (p : RetryPolicy) (id : String) (token : Token) :
    Activity σ (Except OnboardError Document) := do
  match ← Adapter.delete p id token with
  | .error error => return .error error
  | .ok _ => deleteBoth p .item (.forId .item id none token) true

def offboard (p : RetryPolicy) (kind : EntityKind) (id : String) (path : Option String)
    (token : Token) : Activity σ (Except OnboardError Document) :=
  if kind = .item then offboardItem p id token
  else deleteBoth p kind (.forId kind id path token) false

end TwinCatalogue.Onboarding
