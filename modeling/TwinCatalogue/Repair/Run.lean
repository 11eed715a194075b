import TwinCatalogue.Adapter
import TwinCatalogue.Repair.Restorable

/-!
Running a repair. Each phase that writes runs under the retry policy of its own; a phase that
fails ends the repair. A repair ends once, as repaired or as irreparable, and starts no other.
-/

namespace TwinCatalogue.RepairTask

variable {σ : Type}

/-- A phase of a repair: a call under the retry policy, of which only the failure matters. -/
def phase (p : RetryPolicy) (operation : Activity σ Reply) : Activity σ (Except OnboardError Unit) := do
  match (← p.retrying operation).toExcept with
  | .ok _ => return .ok ()
  | .error error => return .error (.store error)

def deletion (p : RetryPolicy) (side : Side) (kind : EntityKind) (id : String)
    (path : Option String) (token : Token) : Activity σ (Except OnboardError Unit) :=
  phase p (Activity.call (.store side (.delete kind id path) token))

/-- How a copy is written to the local catalogue. -/
inductive CopyMode where
  | create
  | update
  deriving DecidableEq, Repr

def CopyMode.call (mode : CopyMode) (kind : EntityKind) (entity : Document) : StoreCall :=
  match mode with
  | create => .create kind entity
  | update => .update kind entity

def noEntity (kind : EntityKind) (id : String) : StoreError :=
  .decode ("central/" ++ kind.name ++ "?id=" ++ id) "response carries no entity"

def copyOnce (task : RepairTask) (id : String) (mode : CopyMode) (admin : Token) :
    Activity σ Reply := do
  match ← Activity.call (.store .centralSide (.get task.kind id) admin) with
  | .error error => return .error error
  | .ok fetched =>
    match fetched.restorable task.kind id with
    | none => return .error (noEntity task.kind id)
    | some entity => Activity.call (.store .localSide (mode.call task.kind entity) task.token)

def acquireToken (task : RepairTask) : Activity σ (Except TokenError Token) :=
  match task.adminToken with
  | some token => return .ok token
  | none => Activity.mint

def copy (p : RetryPolicy) (task : RepairTask) (id : String) (mode : CopyMode) :
    Activity σ (Except OnboardError Unit) := do
  match ← task.acquireToken with
  | .error error => return .error (.token error)
  | .ok admin => phase p (task.copyOnce id mode admin)

def reregister (p : RetryPolicy) (id : String) (token : Token) :
    Activity σ (Except OnboardError Unit) := do
  match ← Adapter.resolve id token with
  | .error error => return .error error
  | .ok url => phase p (Activity.call (.register url id token))

def takeBack (p : RetryPolicy) (id : String) (token : Token) :
    Activity σ (Except OnboardError Unit) := do
  match ← deletion p .localSide .item id none token with
  | .error error => return .error error
  | .ok () =>
    match ← Activity.mint with
    | .error error => return .error (.token error)
    | .ok admin => deletion p .centralSide .item id none admin

def perform (p : RetryPolicy) (task : RepairTask) (id : String) :
    Activity σ (Except OnboardError Unit) :=
  match task.action with
  | .deleteLocal => deletion p .localSide task.kind id task.path task.token
  | .restoreLocalFromCentral => copy p task id .update
  | .recreateLocalFromCentral => copy p task id .create
  | .recreateAdapter => reregister p id task.token
  | .rollbackItem => takeBack p id task.token

def apply (p : RetryPolicy) (task : RepairTask) : Activity σ (Except OnboardError Unit) :=
  match task.id with
  | none => return .error (.missingIdentifier task.kind)
  | some id => task.perform p id

def run (p : RetryPolicy) (task : RepairTask) : Activity σ Bool := do
  match ← task.apply p with
  | .ok () =>
    Activity.log (.reconciled task)
    Activity.count .repaired
    return true
  | .error error =>
    Activity.log (.inconsistent task error)
    Activity.count .irreparable
    return false

end TwinCatalogue.RepairTask
