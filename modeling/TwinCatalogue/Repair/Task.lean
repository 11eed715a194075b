import TwinCatalogue.Request

/-!
Repairs. When a write on one side is given up, at most one corrective action brings the other
side back towards agreement; which one depends on the kind, the operation and the side that
failed, and on nothing else.
-/

namespace TwinCatalogue

inductive Repair where
  | deleteLocal
  | restoreLocalFromCentral
  | recreateLocalFromCentral
  | recreateAdapter
  | rollbackItem
  deriving DecidableEq, Repr

namespace Repair

def name : Repair → String
  | deleteLocal => "DeleteLocal"
  | restoreLocalFromCentral => "RestoreLocalFromCentral"
  | recreateLocalFromCentral => "RecreateLocalFromCentral"
  | recreateAdapter => "RecreateAdapter"
  | rollbackItem => "RollbackItem"

def description : Repair → String
  | deleteLocal => "delete from local catalogue"
  | restoreLocalFromCentral => "restore local copy from central catalogue"
  | recreateLocalFromCentral => "re-create local copy from central catalogue"
  | recreateAdapter => "re-register ingestion adapter"
  | rollbackItem => "delete item from local and central catalogues"

def recipe (kind : EntityKind) (operation : Operation) (failed : Side) : Option Repair :=
  match failed, operation with
  | .centralSide, .create => some deleteLocal
  | .centralSide, .update => some restoreLocalFromCentral
  | .centralSide, .delete => some recreateLocalFromCentral
  | .localSide, .delete => if kind = .item then some recreateAdapter else none
  | _, _ => none

end Repair

/-- An action together with all that it needs to run: the write that failed, the entity it was
about, the caller's token, and the admin token if one is at hand. -/
structure RepairTask where
  kind : EntityKind
  operation : Operation
  failed : Side
  action : Repair
  id : Option String
  path : Option String
  token : Token
  adminToken : Option Token
  deriving DecidableEq, Repr

namespace RepairTask

def plan (kind : EntityKind) (operation : Operation) (failed : Side) (request : Request)
    (adminToken : Option Token) : Option RepairTask :=
  (Repair.recipe kind operation failed).map fun action =>
    { kind := kind
      operation := operation
      failed := failed
      action := action
      id := request.identifier kind
      path := request.path
      token := request.token
      adminToken := adminToken }

/-- The task that takes an item back from both catalogues because its adapter could not be
registered. -/
def rollback (id : String) (token : Token) : RepairTask :=
  { kind := .item
    operation := .create
    failed := .localSide
    action := .rollbackItem
    id := some id
    path := none
    token := token
    adminToken := none }

end RepairTask

end TwinCatalogue
