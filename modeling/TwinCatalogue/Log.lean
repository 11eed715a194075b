import TwinCatalogue.Repair.Task
import TwinCatalogue.Failure

/-!
The records that the engine logs. Each has a level, a message and named fields; neither tokens
nor documents are among them.
-/

namespace TwinCatalogue

inductive LogLevel where
  | info
  | warn
  | error
  deriving DecidableEq, Repr

def LogLevel.name : LogLevel → String
  | info => "INFO"
  | warn => "WARN"
  | error => "ERROR"

inductive LogEntry where
  | retrying (attempt maxAttempts delay : Nat) (error : StoreError)
  | notRetrying (attempt : Nat) (error : StoreError)
  | localCallFailed (error : StoreError)
  | mintFailed (error : TokenError)
  | gaveUp (attempts : Nat) (error : StoreError)
  | dispatching (task : RepairTask)
  | reconciled (task : RepairTask)
  | inconsistent (task : RepairTask) (error : OnboardError)
  | registering (item server : String)
  | deregistering (item server : String)
  | registrationFailed (item server : String) (error : StoreError)
  | deregistrationFailed (item server : String) (error : StoreError)
  | createdLocally (kind : EntityKind) (id : String)
  deriving DecidableEq, Repr

namespace LogEntry

def level : LogEntry → LogLevel
  | retrying _ _ _ _ => .warn
  | notRetrying _ _ => .warn
  | localCallFailed _ => .warn
  | mintFailed _ => .error
  | gaveUp _ _ => .error
  | dispatching _ => .warn
  | reconciled _ => .info
  | inconsistent _ _ => .error
  | registering _ _ => .info
  | deregistering _ _ => .info
  | registrationFailed _ _ _ => .error
  | deregistrationFailed _ _ _ => .error
  | createdLocally _ _ => .info

def message : LogEntry → String
  | retrying _ _ _ _ => "call failed, retrying"
  | notRetrying _ _ => "unrecoverable failure, not retrying"
  | localCallFailed _ => "local catalogue call failed"
  | mintFailed _ => "cannot mint admin token for central catalogue"
  | gaveUp _ _ => "central catalogue call gave up"
  | dispatching _ => "dispatching compensation"
  | reconciled _ => "compensation applied, stores reconciled"
  | inconsistent _ _ =>
    "INCONSISTENCY DETECTED: compensation failed, manual intervention required"
  | registering _ _ => "registering adapter"
  | deregistering _ _ => "deregistering adapter"
  | registrationFailed _ _ _ => "adapter registration failed"
  | deregistrationFailed _ _ _ => "adapter deregistration failed"
  | createdLocally _ _ => "created on local, mirroring to central"

def taskFields (task : RepairTask) : List (String × String) :=
  [("kind", task.kind.name), ("operation", task.operation.name), ("id", Text.quotedOption task.id),
    ("action", task.action.description)]

def fields : LogEntry → List (String × String)
  | retrying attempt maxAttempts delay error =>
    [("attempt", toString attempt), ("max_attempts", toString maxAttempts),
      ("delay_ms", toString delay), ("error", error.message)]
  | notRetrying attempt error => [("attempt", toString attempt), ("error", error.message)]
  | localCallFailed error => [("error", error.message)]
  | mintFailed error => [("error", error.message)]
  | gaveUp attempts error => [("attempts", toString attempts), ("error", error.message)]
  | dispatching task => ("failed", task.failed.name) :: taskFields task
  | reconciled task => taskFields task
  | inconsistent task error =>
    ("failed", task.failed.name) :: ("error", error.message) :: taskFields task
  | registering item server => [("item_id", item), ("resource_server", server)]
  | deregistering item server => [("item_id", item), ("resource_server", server)]
  | registrationFailed item server error =>
    [("item_id", item), ("resource_server", server), ("error", error.message)]
  | deregistrationFailed item server error =>
    [("item_id", item), ("resource_server", server), ("error", error.message)]
  | createdLocally kind id => [("kind", kind.name), ("id", id)]

end LogEntry

end TwinCatalogue
