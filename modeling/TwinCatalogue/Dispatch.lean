import TwinCatalogue.Retry.Run

/-!
Operations on a single catalogue. A local call is made once with the caller's token. A central
call is retried with a freshly minted token; when it is given up, its repair is handed over.
-/

namespace TwinCatalogue

variable {σ : Type}

def executeLocal (call : StoreCall) (token : Token) : Activity σ (Except OnboardError Document) := do
  match ← Activity.call (.store .localSide call token) with
  | .ok doc => return .ok doc
  | .error error =>
    Activity.log (.localCallFailed error)
    return .error (.store error)

/-- Gives up a central write after its last attempt: counts and logs the failure and hands over
the repair, if there is one. -/
def giveUp (kind : EntityKind) (operation : Operation) (request : Request) (admin : Token)
    (error : StoreError) (attempts : Nat) : Activity σ (Except OnboardError Document) := do
  Activity.count .primaryFailures
  Activity.log (.gaveUp attempts error)
  match RepairTask.plan kind operation .centralSide request (some admin) with
  | some task => Activity.dispatch task
  | none => pure ()
  return .error (.ofTerminal error)

def executeCentral (p : RetryPolicy) (kind : EntityKind) (operation : Operation)
    (request : Request) (call : StoreCall) : Activity σ (Except OnboardError Document) := do
  match ← Activity.mint with
  | .error error =>
    Activity.log (.mintFailed error)
    return .error (.token error)
  | .ok admin =>
    match ← p.retrying (Activity.call (.store .centralSide call admin)) with
    | .success doc => return .ok doc
    | .exhausted error attempts => giveUp kind operation request admin error attempts
    | .aborted error attempts => giveUp kind operation request admin error attempts

/-- Executes an operation on one side. A request that names no entity where one is needed is
refused before any call. -/
def executeOn (p : RetryPolicy) (kind : EntityKind) (operation : Operation) (request : Request)
    (side : Side) : Activity σ (Except OnboardError Document) :=
  match StoreCall.ofRequest kind operation request with
  | none => return .error (.missingIdentifier kind)
  | some call =>
    match side with
    | .localSide => executeLocal call request.token
    | .centralSide => executeCentral p kind operation request call

def execute (p : RetryPolicy) (kind : EntityKind) (operation : Operation) (request : Request)
    (target : String) : Activity σ (Except OnboardError Document) :=
  match Side.parse? target with
  | none => return .error (.invalidTarget target)
  | some side => executeOn p kind operation request side

end TwinCatalogue
