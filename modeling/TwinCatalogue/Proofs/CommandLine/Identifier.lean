import TwinCatalogue.CommandLine.Run
import TwinCatalogue.Proofs.Catalogue.Basic

/-! The identifier of a request from the command line. One that is named there stands under the key
of its kind, whatever the file has. The empty one is no identifier, and then the generic one of the
file counts. -/

namespace TwinCatalogue

namespace EntityKind

theorem idKey_eq_generic_iff {kind : EntityKind} : kind.idKey = "id" ↔ kind = .item := by
  cases kind <;> simp [idKey]

/-- Behind an empty text under its own key, a kind falls back to the generic identifier. -/
theorem identifierOf_insert_empty (kind : EntityKind) (d : Document) (id : String) :
    kind.identifierOf (d.insert kind.idKey (.string "")) = some id ↔
      kind ≠ .item ∧ d.get? "id" = some (.string id) ∧ id ≠ "" := by
  have hown : ((d.insert kind.idKey (.string "")).get? kind.idKey).bind identifier? = none := by
    simp [identifier?]
  rw [identifierOf, hown]
  dsimp only
  rw [Document.get?_insert]
  by_cases hkind : kind = .item
  · simp [hkind, idKey, identifier?]
  · have hkey : ¬ "id" = kind.idKey := fun h => hkind (idKey_eq_generic_iff.mp h.symm)
    simp only [if_neg hkey, Option.bind_eq_some_iff, identifier?_eq_some_iff]
    constructor
    · rintro ⟨value, hvalue, rfl, hid⟩
      exact ⟨hkind, hvalue, hid⟩
    · rintro ⟨-, hvalue, hid⟩
      exact ⟨_, hvalue, rfl, hid⟩

end EntityKind

namespace CommandLine

variable {kind : EntityKind} {file : Option Document} {arguments : EntityArguments} {token : Token}
  {id : String}

theorem entityRequest_body (h : arguments.id = some id) :
    (entityRequest kind file arguments token).body =
      (file.getD .empty).insert kind.idKey (.string id) := by
  rw [entityRequest, h]

theorem entityRequest_identifier (h : arguments.id = some id) (hid : id ≠ "") :
    (entityRequest kind file arguments token).identifier kind = some id := by
  rw [Request.identifier, entityRequest_body h]
  exact EntityKind.identifierOf_of_get? hid (by rw [Document.get?_insert, if_pos rfl])

theorem entityRequest_identifier_empty (h : arguments.id = some "") (found : String) :
    (entityRequest kind file arguments token).identifier kind = some found ↔
      kind ≠ .item ∧ (file.getD .empty).get? "id" = some (.string found) ∧ found ≠ "" := by
  rw [Request.identifier, entityRequest_body h]
  exact EntityKind.identifierOf_insert_empty kind _ found

/-- A request has the members of the file and, under the key of its kind, the identifier that is
named. A text that is not empty is its identifier. With the empty one it has none, unless the kind
has a key of its own and the file a generic identifier: then it has that one. -/
theorem entityRequest_named (kind : EntityKind) (file : Option Document)
    (arguments : EntityArguments) (token : Token) :
    let request := entityRequest kind file arguments token
    let given := file.getD .empty
    request.path = arguments.path ∧ request.token = token ∧
    (arguments.id = none → request.body = given) ∧
    ∀ id, arguments.id = some id →
      (∀ key, key ≠ kind.idKey → request.body.get? key = given.get? key) ∧
      request.body.get? kind.idKey = some (.string id) ∧
      (id ≠ "" → request.identifier kind = some id) ∧
      (id = "" → ∀ found, request.identifier kind = some found ↔
        kind ≠ .item ∧ given.get? "id" = some (.string found) ∧ found ≠ "") := by
  intro request given
  refine ⟨rfl, rfl, fun h => ?_, fun id h => ⟨fun key hkey => ?_, ?_, entityRequest_identifier h, ?_⟩⟩
  · simp [request, given, entityRequest, h]
  · rw [entityRequest_body h, Document.get?_insert, if_neg hkey]
  · rw [entityRequest_body h, Document.get?_insert, if_pos rfl]
  · rintro rfl
    exact entityRequest_identifier_empty h

/-- An instance is named where the file has both another instance and a generic identifier. -/
theorem entityRequest_named_instance :
    let file : Document :=
      ⟨[("id", .string "delhi"), ("instanceId", .string "old"), ("label", .string "Pune")]⟩
    let arguments : EntityArguments := ⟨"local", some "pune.json", some "pune", some "smartcity"⟩
    let request := entityRequest .inst (some file) arguments ⟨"token"⟩
    arguments.id = some "pune" ∧ request.path = some "smartcity" ∧
      request.body.get? "label" = some (.string "Pune") ∧ request.identifier .inst = some "pune" := by
  intro file arguments request
  have hid : arguments.id = some "pune" := rfl
  obtain ⟨hpath, -, -, hnamed⟩ := entityRequest_named .inst (some file) arguments ⟨"token"⟩
  obtain ⟨hothers, -, hidentifier, -⟩ := hnamed "pune" hid
  exact ⟨hid, hpath, hothers "label" (by decide), hidentifier (by decide)⟩

/-- With the empty identifier an instance is addressed by the generic one of the file. -/
theorem entityRequest_empty_identifier :
    let file : Document := ⟨[("id", .string "pune")]⟩
    let arguments : EntityArguments := ⟨"local", some "pune.json", some "", none⟩
    arguments.id = some "" ∧
      (entityRequest .inst (some file) arguments ⟨"token"⟩).identifier .inst = some "pune" := by
  intro file arguments
  have hid : arguments.id = some "" := rfl
  exact ⟨hid, (entityRequest_identifier_empty hid "pune").mpr ⟨by decide, rfl, by decide⟩⟩

end CommandLine

end TwinCatalogue
