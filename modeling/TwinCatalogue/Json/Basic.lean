import TwinCatalogue.Number.Binary64

/-!
JSON values and documents. An object holds each key once, in the order of code points; reading
it by key does not depend on that order.
-/

namespace TwinCatalogue

/-- A JSON value. Numbers without point and exponent are whole numbers if they fit into 64 bits. -/
inductive Json where
  | null
  | bool (value : Bool)
  | integer (value : Int)
  | decimal (value : Binary64)
  | string (value : String)
  | array (items : List Json)
  | object (members : List (String × Json))
  deriving Repr, Inhabited

/-- Puts a member at its place in the order of keys, replacing one that has its key. -/
def insertMember {α : Type} (key : String) (value : α) : List (String × α) → List (String × α)
  | [] => [(key, value)]
  | (k, v) :: rest =>
    if key = k then (key, value) :: rest
    else if key < k then (key, value) :: (k, v) :: rest
    else (k, v) :: insertMember key value rest

/-- A JSON object by itself: what a catalogue stores and what a call answers. -/
structure Document where
  members : List (String × Json)
  deriving Repr, Inhabited

namespace Document

def empty : Document := ⟨[]⟩

def get? (d : Document) (key : String) : Option Json := d.members.lookup key

def contains (d : Document) (key : String) : Bool := (d.get? key).isSome

def insert (d : Document) (key : String) (value : Json) : Document :=
  ⟨insertMember key value d.members⟩

def toJson (d : Document) : Json := .object d.members

def ofMembers (members : List (String × Json)) : Document :=
  members.foldl (fun d m => d.insert m.1 m.2) empty

end Document

namespace Json

def text? : Json → Option String
  | string s => some s
  | _ => none

def document? : Json → Option Document
  | object members => some ⟨members⟩
  | _ => none

def get? (key : String) : Json → Option Json
  | object members => members.lookup key
  | _ => none

def first? : Json → Option Json
  | array (item :: _) => some item
  | _ => none

end Json

theorem lookup_cons_ite {α : Type} (k key : String) (value : α) (rest : List (String × α)) :
    ((key, value) :: rest).lookup k = if k = key then some value else rest.lookup k := by
  show (match k == key with | true => some value | false => rest.lookup k) = _
  by_cases h : k = key
  · simp [h]
  · have h' : (k == key) = false := by simpa using h
    simp [h, h']

theorem lookup_insertMember {α : Type} (key k : String) (value : α) (members : List (String × α)) :
    (insertMember key value members).lookup k =
      if k = key then some value else members.lookup k := by
  induction members with
  | nil => simp [insertMember, lookup_cons_ite]
  | cons m rest ih =>
    obtain ⟨k', v⟩ := m
    by_cases h₁ : key = k'
    · simp only [insertMember, if_pos h₁, lookup_cons_ite]
      split <;> simp_all
    · by_cases h₂ : key < k'
      · simp only [insertMember, if_neg h₁, if_pos h₂, lookup_cons_ite]
      · simp only [insertMember, if_neg h₁, if_neg h₂, lookup_cons_ite, ih]
        by_cases h : k = key
        · simp [h, h₁]
        · simp [h]

namespace Document

@[simp] theorem get?_insert (d : Document) (key k : String) (value : Json) :
    (d.insert key value).get? k = if k = key then some value else d.get? k :=
  lookup_insertMember key k value d.members

@[simp] theorem get?_empty (k : String) : empty.get? k = none := rfl

@[simp] theorem document?_toJson (d : Document) : d.toJson.document? = some d := rfl

end Document

end TwinCatalogue
