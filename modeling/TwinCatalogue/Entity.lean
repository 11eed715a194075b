import TwinCatalogue.Json.Basic
import TwinCatalogue.Text.Blank

/-!
The words of a catalogue call: what kind of entity it is about, what it does, and which of the
two catalogues it goes to.
-/

namespace TwinCatalogue

/-- The three kinds of records that catalogues hold. -/
inductive EntityKind where
  | item
  | inst
  | domain
  deriving DecidableEq, Repr

inductive Operation where
  | create
  | update
  | delete
  | get
  deriving DecidableEq, Repr

/-- The catalogue that a call goes to. Callers act on the local one with their own token; the
central one takes tokens that are minted for each call. -/
inductive Side where
  | localSide
  | centralSide
  deriving DecidableEq, Repr

namespace EntityKind

def name : EntityKind → String
  | item => "item"
  | inst => "instance"
  | domain => "domain"

def idKey : EntityKind → String
  | item => "id"
  | inst => "instanceId"
  | domain => "domainId"

def all : List EntityKind := [item, inst, domain]

def identifier? : Json → Option String
  | .string s => if s = "" then none else some s
  | _ => none

/-- The identifier of a document: that under the key of its kind, else that under `id`. -/
def identifierOf (kind : EntityKind) (d : Document) : Option String :=
  match (d.get? kind.idKey).bind identifier? with
  | some id => some id
  | none => (d.get? "id").bind identifier?

end EntityKind

namespace Operation

def name : Operation → String
  | create => "create"
  | update => "update"
  | delete => "delete"
  | get => "get"

def all : List Operation := [create, update, delete, get]

end Operation

namespace Side

def name : Side → String
  | localSide => "local"
  | centralSide => "central"

def all : List Side := [localSide, centralSide]

/-- The side that a caller names; white space around it and the case of its letters are free. -/
def parse? (s : String) : Option Side :=
  let word := Text.lowerAscii (Text.trim s)
  if word = "local" then some localSide
  else if word = "central" then some centralSide
  else none

end Side

/-- The member of a list of named things that a JSON value stands for: its name, or an object
whose single key is the name and whose value is null. -/
def named? {α : Type} (name : α → String) (all : List α) : Json → Option α
  | .string s => all.find? (fun a => name a == s)
  | .object [(key, .null)] => all.find? (fun a => name a == key)
  | _ => none

def EntityKind.ofJson? : Json → Option EntityKind := named? EntityKind.name EntityKind.all

def Operation.ofJson? : Json → Option Operation := named? Operation.name Operation.all

def Side.ofJson? : Json → Option Side := named? Side.name Side.all

end TwinCatalogue
