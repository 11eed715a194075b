import TwinCatalogue.Entity

/-!
Finding the entity in the answer of a catalogue, and preparing it to be written back.
-/

namespace TwinCatalogue

namespace Document

/-- The first entity of an answer: the first item under `results`, or what stands there if it is
an object, or the whole answer if it has an `id` and no `results`. -/
def firstResult (answer : Document) : Option Document :=
  match answer.get? "results" with
  | some (.array items) => items.head?.bind Json.document?
  | some (.object members) => some ⟨members⟩
  | some _ => none
  | none => if answer.contains "id" then some answer else none

def insertIfAbsent (d : Document) (key : String) (value : Json) : Document :=
  if d.contains key then d else d.insert key value

/-- The entity of an answer, ready to be written: with the identifier under the key of its kind
if nothing stands there. -/
def restorable (kind : EntityKind) (id : String) (answer : Document) : Option Document :=
  answer.firstResult.map fun entity => entity.insertIfAbsent kind.idKey (.string id)

end Document

end TwinCatalogue
