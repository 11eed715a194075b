import TwinCatalogue.Call
import TwinCatalogue.Repair.Restorable

/-! What the two catalogues hold. A catalogue keeps every document under its own identifier, and
two catalogues agree on an entity if neither holds it or their documents differ at most in the
member that identifies its kind. -/

namespace TwinCatalogue

namespace EntityKind

theorem identifier?_eq_some_iff {v : Json} {id : String} :
    identifier? v = some id ↔ v = .string id ∧ id ≠ "" := by
  cases v with
  | string t =>
    by_cases h : t = ""
    · simp only [identifier?, h, if_true, reduceCtorEq, Json.string.injEq, false_iff]
      rintro ⟨rfl, hne⟩
      exact hne rfl
    · simp only [identifier?, h, if_false, Option.some.injEq, Json.string.injEq]
      exact ⟨fun he => ⟨he, he ▸ h⟩, fun he => he.1⟩
  | _ => simp [identifier?]

theorem identifierOf_ne_empty {kind : EntityKind} {d : Document} {id : String}
    (h : kind.identifierOf d = some id) : id ≠ "" := by
  unfold identifierOf at h
  split at h
  · rename_i found hfound
    obtain ⟨v, -, hv⟩ := Option.bind_eq_some_iff.mp hfound
    exact Option.some.inj h ▸ (identifier?_eq_some_iff.mp hv).2
  · obtain ⟨v, -, hv⟩ := Option.bind_eq_some_iff.mp h
    exact (identifier?_eq_some_iff.mp hv).2

theorem identifierOf_of_get? {kind : EntityKind} {d : Document} {id : String} (hid : id ≠ "")
    (h : d.get? kind.idKey = some (.string id)) : kind.identifierOf d = some id := by
  simp [identifierOf, h, identifier?, hid]

end EntityKind

namespace Document

/-- Two documents with the same members, up to the one under a given key. -/
def EqExcept (key : String) (d e : Document) : Prop := ∀ k, k ≠ key → d.get? k = e.get? k

theorem EqExcept.refl (key : String) (d : Document) : EqExcept key d d := fun _ _ => rfl

theorem eqExcept_insertIfAbsent (d : Document) (key : String) (value : Json) :
    EqExcept key (d.insertIfAbsent key value) d := by
  intro k hk
  unfold insertIfAbsent
  split
  · rfl
  · rw [get?_insert, if_neg hk]

theorem identifierOf_insertIfAbsent {kind : EntityKind} {d : Document} {id : String}
    (h : kind.identifierOf d = some id) :
    kind.identifierOf (d.insertIfAbsent kind.idKey (.string id)) = some id := by
  unfold insertIfAbsent
  split
  · exact h
  · exact EntityKind.identifierOf_of_get? (EntityKind.identifierOf_ne_empty h)
      (by rw [get?_insert, if_pos rfl])

/-- The answer of a catalogue that found an entity. -/
def found (d : Document) : Document := .ofMembers [("results", .array [d.toJson])]

theorem restorable_found (kind : EntityKind) (id : String) (d : Document) :
    d.found.restorable kind id = some (d.insertIfAbsent kind.idKey (.string id)) := rfl

end Document

theorem Request.identifier_forId {kind : EntityKind} {id : String} (hid : id ≠ "")
    (path : Option String) (token : Token) :
    (Request.forId kind id path token).identifier kind = some id :=
  EntityKind.identifierOf_of_get? hid (by simp [forId])

/-- A catalogue: for each kind and identifier at most one document, which has that identifier. -/
structure Catalogue where
  held : EntityKind → String → Option Document
  keyed : ∀ kind id d, held kind id = some d → kind.identifierOf d = some id

namespace Catalogue

def empty : Catalogue := ⟨fun _ _ => none, fun _ _ _ h => nomatch h⟩

/-- Holds a document under its identifier, in place of any other; a document without one is not
held at all. -/
def bind (c : Catalogue) (kind : EntityKind) (d : Document) : Catalogue where
  held k id := if k = kind ∧ kind.identifierOf d = some id then some d else c.held k id
  keyed k id e h := by
    split at h
    · rename_i hk
      rw [hk.1, ← Option.some.inj h, hk.2]
    · exact c.keyed k id e h

def unbind (c : Catalogue) (kind : EntityKind) (id : String) : Catalogue where
  held k i := if k = kind ∧ i = id then none else c.held k i
  keyed k i e h := by
    split at h
    · exact nomatch h
    · exact c.keyed k i e h

def write (c : Catalogue) : StoreCall → Catalogue
  | .create kind d => c.bind kind d
  | .update kind d => c.bind kind d
  | .delete kind id _ => c.unbind kind id
  | .get _ _ => c
  | .related _ _ _ => c

theorem held_bind {c : Catalogue} {kind : EntityKind} {d : Document} {id : String}
    (h : kind.identifierOf d = some id) : (c.bind kind d).held kind id = some d :=
  if_pos ⟨rfl, h⟩

theorem held_unbind (c : Catalogue) (kind : EntityKind) (id : String) :
    (c.unbind kind id).held kind id = none :=
  if_pos ⟨rfl, rfl⟩

end Catalogue

structure Catalogues where
  localSide : Catalogue
  centralSide : Catalogue

namespace Catalogues

def write (c : Catalogues) : Call → Catalogues
  | .store .localSide call _ => { c with localSide := c.localSide.write call }
  | .store .centralSide call _ => { c with centralSide := c.centralSide.write call }
  | .register _ _ _ => c
  | .deregister _ _ _ => c

def Hold (c : Catalogues) (kind : EntityKind) (id : String) (x y : Option Document) : Prop :=
  c.localSide.held kind id = x ∧ c.centralSide.held kind id = y

/-- Both hold nothing, or documents that differ at most in the identifying member. -/
def Agree (c : Catalogues) (kind : EntityKind) (id : String) : Prop :=
  match c.localSide.held kind id, c.centralSide.held kind id with
  | none, none => True
  | some d, some e => d.EqExcept kind.idKey e
  | _, _ => False

theorem agree_none {c : Catalogues} {kind : EntityKind} {id : String}
    (h : c.localSide.held kind id = none) :
    c.Agree kind id ↔ c.centralSide.held kind id = none := by
  unfold Agree
  rw [h]
  cases c.centralSide.held kind id <;> simp

theorem agree_of_none {c : Catalogues} {kind : EntityKind} {id : String}
    (h : c.Hold kind id none none) : c.Agree kind id :=
  (agree_none h.1).mpr h.2

theorem agree_of_some {c : Catalogues} {kind : EntityKind} {id : String} {d e : Document}
    (h : c.Hold kind id (some d) (some e)) (hde : d.EqExcept kind.idKey e) : c.Agree kind id := by
  unfold Agree
  rw [h.1, h.2]
  exact hde

end Catalogues

end TwinCatalogue
