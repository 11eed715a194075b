import TwinCatalogue.Failure
import TwinCatalogue.Request

/-!
Calls to the remote systems: the two catalogues, which store entities and answer which entities
are related, and the resource servers, on which adapters are registered.
-/

namespace TwinCatalogue

inductive StoreCall where
  | create (kind : EntityKind) (doc : Document)
  | update (kind : EntityKind) (doc : Document)
  | delete (kind : EntityKind) (id : String) (path : Option String)
  | get (kind : EntityKind) (id : String)
  | related (id relation : String) (filters : List String)
  deriving Repr

/-- A call to a remote system with the token that it carries. -/
inductive Call where
  | store (side : Side) (call : StoreCall) (token : Token)
  | register (url id : String) (token : Token)
  | deregister (url id : String) (token : Token)
  deriving Repr

abbrev Reply := Except StoreError Document

/-- The call to a catalogue that carries out an operation on an entity. Reading and deleting
need an identifier, writing takes the document as it is. -/
def StoreCall.ofRequest (kind : EntityKind) (operation : Operation) (request : Request) :
    Option StoreCall :=
  match operation with
  | .create => some (.create kind request.body)
  | .update => some (.update kind request.body)
  | .delete => (request.identifier kind).map fun id => .delete kind id request.path
  | .get => (request.identifier kind).map fun id => .get kind id

end TwinCatalogue
