import TwinCatalogue.Http.Answer
import TwinCatalogue.Proofs.Catalogue.Basic

/-! The forms in which an answer hands over an entity: bare, as the first of a list, or under
`results`, by itself or as the first of a list there. Each of them is read back as the entity,
but the bare one only if it has a generic identifier. -/

namespace TwinCatalogue

theorem Text.isDigit_of_isBlank {c : Char} (h : isBlank c = true) : c.isDigit = false := by
  refine Bool.eq_false_iff.mpr fun hdigit => ?_
  obtain ⟨hlow, hhigh⟩ : '0'.val ≤ c.val ∧ c.val ≤ '9'.val := by
    simpa [Char.isDigit] using hdigit
  have hlow : 48 ≤ c.toNat := UInt32.le_iff_toNat_le.mp hlow
  have hhigh : c.toNat ≤ 57 := UInt32.le_iff_toNat_le.mp hhigh
  simp only [isBlank, Bool.or_eq_true, Bool.and_eq_true, decide_eq_true_eq, beq_iff_eq] at h
  omega

namespace Json

theorem value_of_blank {cs : List Char} (h : ∀ c ∈ cs, Text.isBlank c = true) (fuel : Nat) :
    ∃ stop, value fuel cs = .error stop := by
  cases fuel with
  | zero => exact ⟨_, rfl⟩
  | succ fuel =>
    have hfirst : ∀ c rest, skipSpace cs = c :: rest → Text.isBlank c = true := by
      intro c rest hskip
      refine h c ((List.dropWhile_suffix isSpace).subset ?_)
      rw [← skipSpace, hskip]
      exact List.mem_cons_self
    unfold value
    split <;> rename_i hskip
    case h_1 => exact ⟨_, rfl⟩
    case h_9 => exact ⟨_, by rw [Text.isDigit_of_isBlank (hfirst _ _ hskip), if_neg Bool.false_ne_true]⟩
    -- the other cases begin with a character of the grammar
    all_goals exact absurd (hfirst _ _ hskip) (by decide)

theorem parse_of_blank {text : String} (h : Text.blank text = true) :
    ∃ e, parse text = .error e := by
  obtain ⟨stop, hstop⟩ := value_of_blank (List.all_eq_true.mp h) (2 * text.toList.length + 2)
  have hwritten : Written.ofChars text.toList = .error stop := by rw [Written.ofChars, hstop]
  rw [parse, parseWithin, hwritten]
  exact ⟨_, rfl⟩

/-- An object is the document itself; any other value becomes the results of one. -/
def asDocument : Json → Document
  | object members => ⟨members⟩
  | v => Document.empty.insert "results" v

end Json

namespace Http

theorem successDocument_of_parse {url body : String} {v : Json} (h : Json.parse body = .ok v) :
    successDocument url body = .ok v.asDocument := by
  have hblank : ¬ Text.blank body = true := by
    intro hblank
    obtain ⟨e, he⟩ := Json.parse_of_blank hblank
    exact nomatch h.symm.trans he
  rw [successDocument, if_neg hblank, h]
  cases v <;> rfl

theorem Answer.document_of_parse {a : Answer} {bytes : List UInt8} {v : Json}
    (hcode : a.code = 200 ∨ a.code = 201) (hbody : a.body = .ok bytes)
    (hvalue : Json.parse ((charsetOf a.contentType).decode bytes) = .ok v) (url : String) :
    a.document url = .ok v.asDocument := by
  rw [document, hbody]
  change documentOf url a.code _ = _
  rw [documentOf, if_pos hcode, successDocument_of_parse hvalue]

end Http

namespace Document

variable {kind : EntityKind} {id : String} {e : Document} {v : Json}

/-- The values that hand over an entity. -/
inductive WireForm (e : Document) : Json → Prop where
  | bare : WireForm e e.toJson
  | listed (rest : List Json) : WireForm e (.array (e.toJson :: rest))
  | result {d : Document} (h : d.get? "results" = some e.toJson) : WireForm e d.toJson
  | results {d : Document} {rest : List Json}
      (h : d.get? "results" = some (.array (e.toJson :: rest))) : WireForm e d.toJson

theorem firstResult_of_result {d : Document} (h : d.get? "results" = some e.toJson) :
    d.firstResult = some e := by
  rw [firstResult, h]
  rfl

theorem firstResult_of_results {d : Document} {rest : List Json}
    (h : d.get? "results" = some (.array (e.toJson :: rest))) : d.firstResult = some e := by
  rw [firstResult, h]
  rfl

theorem firstResult_of_bare (h : e.get? "results" = none) :
    e.firstResult = if e.contains "id" then some e else none := by
  rw [firstResult, h]

theorem WireForm.firstResult_asDocument (h : WireForm e v) (hbare : v ≠ e.toJson) :
    v.asDocument.firstResult = some e := by
  cases h with
  | bare => exact absurd rfl hbare
  | listed rest =>
    exact firstResult_of_results ((get?_insert _ _ _ _).trans (if_pos rfl))
  | result h => exact firstResult_of_result h
  | results h => exact firstResult_of_results h

theorem contains_of_identifierOf (h : kind.identifierOf e = some id) :
    e.contains kind.idKey = true ∨ e.contains "id" = true := by
  unfold EntityKind.identifierOf at h
  split at h
  · rename_i found hfound
    obtain ⟨value, hvalue, -⟩ := Option.bind_eq_some_iff.mp hfound
    exact .inl (Option.isSome_of_eq_some hvalue)
  · obtain ⟨value, hvalue, -⟩ := Option.bind_eq_some_iff.mp h
    exact .inr (Option.isSome_of_eq_some hvalue)

end Document

namespace Http

/-- An answer that hands over an entity is understood, except that the entity itself is one only
with a member `id`. So all forms of an item are understood. -/
theorem Answer.document_wireForm {kind : EntityKind} {id : String} {e : Document} {v : Json}
    {a : Answer} {bytes : List UInt8} (hid : kind.identifierOf e = some id)
    (hresults : e.get? "results" = none) (hform : e.WireForm v)
    (hcode : a.code = 200 ∨ a.code = 201) (hbody : a.body = .ok bytes)
    (hvalue : Json.parse ((charsetOf a.contentType).decode bytes) = .ok v) (url : String) :
    ∃ d, a.document url = .ok d ∧
      (v ≠ e.toJson → d.firstResult = some e) ∧
      (v = e.toJson → d = e ∧ d.firstResult = if e.contains "id" then some e else none) ∧
      (kind = .item → d.firstResult = some e) := by
  refine ⟨v.asDocument, a.document_of_parse hcode hbody hvalue url, hform.firstResult_asDocument,
    ?_, ?_⟩
  · rintro rfl
    exact ⟨rfl, Document.firstResult_of_bare hresults⟩
  · rintro rfl
    by_cases hbare : v = e.toJson
    · have hgeneric : e.contains "id" = true := or_self_iff.mp (Document.contains_of_identifierOf hid)
      subst hbare
      exact (Document.firstResult_of_bare hresults).trans (if_pos hgeneric)
    · exact hform.firstResult_asDocument hbare

/-- A list that begins with a domain. -/
theorem Answer.document_wireForm_domain :
    let text := "[\x7b\"domainId\":\"air\"\x7d]"
    let a : Answer := ⟨201, some "application/json", .ok (Text.utf8 text)⟩
    let e : Document := .ofMembers [("domainId", .string "air")]
    let v := Json.array [e.toJson]
    EntityKind.domain.identifierOf e = some "air" ∧ e.get? "results" = none ∧ e.WireForm v ∧
      Json.parse ((charsetOf a.contentType).decode (Text.utf8 text)) = .ok v ∧
      ∃ d, a.document "url" = .ok d ∧ d.firstResult = some e := by
  intro text a e v
  have hid : EntityKind.domain.identifierOf e = some "air" := rfl
  have hform : e.WireForm v := .listed []
  have hvalue : Json.parse ((charsetOf a.contentType).decode (Text.utf8 text)) = .ok v := by
    have htext : (charsetOf a.contentType).decode (Text.utf8 text) = text := by decide +kernel
    have hchars : text.toList = ['[', '{', '"', 'd', 'o', 'm', 'a', 'i', 'n', 'I', 'd', '"', ':',
      '"', 'a', 'i', 'r', '"', '}', ']'] := by decide +kernel
    rw [htext, Json.parse, Json.parseWithin, hchars]
    rfl
  obtain ⟨d, hd, hfirst, -⟩ :=
    Answer.document_wireForm hid rfl hform (.inr rfl) rfl hvalue "url"
  exact ⟨hid, rfl, hform, hvalue, d, hd, hfirst nofun⟩

/-- An instance by itself is not understood if it has only the identifier of its kind. -/
theorem Answer.bare_instance_overlooked :
    let text := "\x7b\"instanceId\":\"pune\"\x7d"
    let a : Answer := ⟨200, none, .ok (Text.utf8 text)⟩
    let e : Document := .ofMembers [("instanceId", .string "pune")]
    EntityKind.inst.identifierOf e = some "pune" ∧ e.get? "results" = none ∧
      Json.parse ((charsetOf a.contentType).decode (Text.utf8 text)) = .ok e.toJson ∧
      a.document "url" = .ok e ∧ e.firstResult = none := by
  intro text a e
  have hvalue : Json.parse ((charsetOf a.contentType).decode (Text.utf8 text)) = .ok e.toJson := by
    have htext : (charsetOf a.contentType).decode (Text.utf8 text) = text := by decide +kernel
    have hchars : text.toList = ['{', '"', 'i', 'n', 's', 't', 'a', 'n', 'c', 'e', 'I', 'd', '"',
      ':', '"', 'p', 'u', 'n', 'e', '"', '}'] := by decide +kernel
    rw [htext, Json.parse, Json.parseWithin, hchars]
    rfl
  exact ⟨rfl, rfl, hvalue, a.document_of_parse (.inl rfl) rfl hvalue "url", rfl⟩

end Http

end TwinCatalogue
