import TwinCatalogue.Entity

/-!
Requests of callers, with the token that they present.
-/

namespace TwinCatalogue

structure Token where
  secret : String
  deriving DecidableEq, Repr

/-- One call of a caller: the document it is about, the path below which the entity lives, and
the caller's token. -/
structure Request where
  body : Document
  path : Option String
  token : Token

namespace Request

def forId (kind : EntityKind) (id : String) (path : Option String) (token : Token) : Request :=
  { body := Document.empty.insert kind.idKey (.string id), path := path, token := token }

def identifier (r : Request) (kind : EntityKind) : Option String := kind.identifierOf r.body

def withId (r : Request) (kind : EntityKind) (id : String) : Request :=
  { r with body := r.body.insert kind.idKey (.string id) }

end Request

end TwinCatalogue
