import TwinCatalogue.Proofs.Http.WireForms
import TwinCatalogue.Proofs.Text.Trim

/-! What becomes of an answer, for every code and every body. Success or not is the code's matter,
and a failure is explained by its body or its code; only a blank text in the body that comes before
any other explains nothing. -/

namespace TwinCatalogue

namespace Text

theorem trim_eq_empty_iff {s : String} : trim s = "" ↔ blank s = true := by
  rw [trim, ← String.toList_inj, String.toList_ofList, String.toList_empty, stripWhile_eq_nil_iff,
    blank, List.all_eq_true]

theorem blank_trim {s : String} (h : blank s = false) : blank (trim s) = false := by
  have hword : stripWhile isBlank s.toList ≠ [] := by
    intro hnil
    have hblank : blank s = true := List.all_eq_true.mpr (stripWhile_eq_nil_iff.mp hnil)
    rw [hblank] at h
    exact Bool.noConfusion h
  rw [blank, trim, String.toList_ofList, List.all_eq_false]
  exact ⟨_, List.head_mem hword, by rw [head_stripWhile hword]; exact Bool.false_ne_true⟩

end Text

namespace Http

/-- The body is an object with a text under a key. -/
def Carries (body key text : String) : Prop :=
  ∃ members, Json.parse body = .ok (.object members) ∧ members.lookup key = some (.string text)

/-- The text, of all those with a property, that stands under the first of the keys for messages. -/
def FirstText (p : String → Prop) (body text : String) : Prop :=
  ∃ before key after, messageKeys = before ++ key :: after ∧ Carries body key text ∧ p text ∧
    ∀ earlier ∈ before, ∀ other, Carries body earlier other → ¬ p other

/-- What is said about a failure whose body has no text for it. -/
def plainMessage (code : Nat) (body : String) : String :=
  if Text.blank body then (reasonPhrase? code).getD "unknown status" else Text.trim body

/-- The message that a failure ought to have. -/
def Explains (code : Nat) (body message : String) : Prop :=
  FirstText (fun text => Text.blank text = false) body message ∨
    (∀ key ∈ messageKeys, ∀ text, Carries body key text → Text.blank text = true) ∧
      message = plainMessage code body

/-- The first text for a message is blank. -/
def BlankFirst (body : String) : Prop :=
  ∃ text, FirstText (fun _ => True) body text ∧ Text.blank text = true

def textUnder? (body key : String) : Option String :=
  ((Json.parse body).toOption.bind (Json.get? key)).bind Json.text?

theorem textUnder?_eq_some_iff {body key text : String} :
    textUnder? body key = some text ↔ Carries body key text := by
  rw [textUnder?, Carries]
  cases Json.parse body with
  | error e => simp [Except.toOption]
  | ok value =>
    cases value with
    | object members =>
      cases h : members.lookup key with
      | none => simp [Except.toOption, Json.get?, h]
      | some value => cases value <;> simp [Except.toOption, Json.get?, Json.text?, h]
    | _ => simp [Except.toOption, Json.get?]

theorem plainMessage_eq (code : Nat) (body : String) : plainMessage code body =
    if Text.trim body = "" then (reasonPhrase? code).getD "unknown status" else Text.trim body := by
  rw [plainMessage]
  by_cases hblank : Text.blank body = true
  · rw [if_pos hblank, if_pos (Text.trim_eq_empty_iff.mpr hblank)]
  · rw [if_neg hblank, if_neg (fun h => hblank (Text.trim_eq_empty_iff.mp h))]

theorem errorMessage_eq (code : Nat) (body : String) :
    errorMessage code body =
      (messageKeys.findSome? (textUnder? body)).getD (plainMessage code body) := by
  rw [errorMessage, plainMessage_eq]
  cases h : Json.parse body with
  | error e =>
    have hnone : messageKeys.findSome? (textUnder? body) = none := by
      refine List.findSome?_eq_none_iff.mpr fun key _ => ?_
      rw [textUnder?, h]
      rfl
    rw [hnone]
    rfl
  | ok value =>
    have hsome : textUnder? body = fun key => (value.get? key).bind Json.text? := by
      funext key
      rw [textUnder?, h]
      rfl
    rw [hsome]
    dsimp only
    cases messageKeys.findSome? fun key => (value.get? key).bind Json.text? with
    | none => rfl
    | some message => rfl

theorem firstText_iff {body text : String} : FirstText (fun _ => True) body text ↔
    messageKeys.findSome? (textUnder? body) = some text := by
  rw [List.findSome?_eq_some_iff]
  constructor
  · rintro ⟨before, key, after, hkeys, hcarries, -, hbefore⟩
    refine ⟨before, key, after, hkeys, textUnder?_eq_some_iff.mpr hcarries, fun earlier hearlier => ?_⟩
    rw [Option.eq_none_iff_forall_ne_some]
    intro other hother
    exact hbefore earlier hearlier other (textUnder?_eq_some_iff.mp hother) trivial
  · rintro ⟨before, key, after, hkeys, htext, hbefore⟩
    refine ⟨before, key, after, hkeys, textUnder?_eq_some_iff.mp htext, trivial, ?_⟩
    intro earlier hearlier other hother
    have hnone := hbefore earlier hearlier
    rw [textUnder?_eq_some_iff.mpr hother] at hnone
    exact nomatch hnone

/-- The first text for a message is the message, and without one the failure has a plain one. -/
theorem errorMessage_cases (code : Nat) (body : String) :
    FirstText (fun _ => True) body (errorMessage code body) ∨
      (∀ key ∈ messageKeys, ∀ text, ¬ Carries body key text) ∧
        errorMessage code body = plainMessage code body := by
  rw [errorMessage_eq, firstText_iff]
  cases h : messageKeys.findSome? (textUnder? body) with
  | some message => exact .inl rfl
  | none =>
    refine .inr ⟨?_, rfl⟩
    intro key hkey text hcarries
    have hnone := List.findSome?_eq_none_iff.mp h key hkey
    rw [textUnder?_eq_some_iff.mpr hcarries] at hnone
    exact nomatch hnone

theorem firstText_unique {body text text' : String} (h : FirstText (fun _ => True) body text)
    (h' : FirstText (fun _ => True) body text') : text = text' := by
  rw [firstText_iff] at h h'
  exact Option.some.inj (h.symm.trans h')

theorem reasonPhrase?_not_blank {code : Nat} {phrase : String}
    (h : reasonPhrase? code = some phrase) : Text.blank phrase = false := by
  obtain ⟨before, after, hphrases, -⟩ := List.lookup_eq_some_iff.mp h
  have hall : reasonPhrases.all (fun p => !Text.blank p.2) = true := by decide +kernel
  have hmem : (code, phrase) ∈ reasonPhrases := by
    rw [hphrases]
    simp
  simpa using List.all_eq_true.mp hall _ hmem

theorem plainMessage_not_blank (code : Nat) (body : String) :
    Text.blank (plainMessage code body) = false := by
  rw [plainMessage]
  by_cases hblank : Text.blank body = true
  · rw [if_pos hblank]
    cases h : reasonPhrase? code with
    | none => decide
    | some phrase => exact reasonPhrase?_not_blank h
  · rw [if_neg hblank]
    exact Text.blank_trim (Bool.eq_false_iff.mpr hblank)

theorem Explains.not_blank {code : Nat} {body message : String} (h : Explains code body message) :
    Text.blank message = false := by
  rcases h with ⟨before, key, after, -, -, hblank, -⟩ | ⟨-, rfl⟩
  · exact hblank
  · exact plainMessage_not_blank code body

theorem blank_errorMessage_iff (code : Nat) (body : String) :
    Text.blank (errorMessage code body) = true ↔ BlankFirst body := by
  constructor
  · intro hblank
    rcases errorMessage_cases code body with hfirst | ⟨-, hplain⟩
    · exact ⟨_, hfirst, hblank⟩
    · rw [hplain, plainMessage_not_blank] at hblank
      exact Bool.noConfusion hblank
  · rintro ⟨text, hfirst, hblank⟩
    rcases errorMessage_cases code body with hfirst' | ⟨hnone, -⟩
    · rw [firstText_unique hfirst' hfirst]
      exact hblank
    · obtain ⟨before, key, after, hkeys, hcarries, -⟩ := hfirst
      exact absurd hcarries (hnone key (by rw [hkeys]; simp) text)

theorem explains_errorMessage_iff (code : Nat) (body : String) :
    Explains code body (errorMessage code body) ↔ ¬ BlankFirst body := by
  rw [← blank_errorMessage_iff code]
  constructor
  · intro h
    rw [h.not_blank]
    exact Bool.false_ne_true
  · intro hblank
    rcases errorMessage_cases code body with hfirst | ⟨hnone, hplain⟩
    · obtain ⟨before, key, after, hkeys, hcarries, -, hbefore⟩ := hfirst
      refine .inl ⟨before, key, after, hkeys, hcarries, Bool.eq_false_iff.mpr hblank, ?_⟩
      intro earlier hearlier other hother
      exact absurd trivial (hbefore earlier hearlier other hother)
    · exact .inr ⟨fun key hkey text h => absurd h (hnone key hkey text), hplain⟩

theorem documentOf_eq_ok_iff {url : String} {code : Nat} {body : String} {d : Document} :
    documentOf url code body = .ok d ↔ (code = 200 ∨ code = 201) ∧
      (Text.blank body = true ∧ d = .empty ∨ ∃ v, Json.parse body = .ok v ∧ d = v.asDocument) := by
  rw [documentOf]
  by_cases hcode : code = 200 ∨ code = 201
  · rw [if_pos hcode]
    cases hvalue : Json.parse body with
    | ok v =>
      have hblank : ¬ Text.blank body = true := by
        intro h
        obtain ⟨e, he⟩ := Json.parse_of_blank h
        rw [hvalue] at he
        cases he
      rw [successDocument_of_parse hvalue]
      simp [hcode, hblank, eq_comm]
    | error e =>
      rw [successDocument]
      by_cases hblank : Text.blank body = true
      · simp [hcode, hblank, eq_comm]
      · simp [hcode, hblank, hvalue]
  · simp [hcode]

theorem documentOf_eq_decode_iff {url place reason : String} {code : Nat} {body : String} :
    documentOf url code body = .error (.decode place reason) ↔ (code = 200 ∨ code = 201) ∧
      Text.blank body = false ∧ place = url ∧
        ∃ e, Json.parse body = .error e ∧ reason = e.message := by
  rw [documentOf]
  by_cases hcode : code = 200 ∨ code = 201
  · rw [if_pos hcode]
    cases hvalue : Json.parse body with
    | ok v =>
      rw [successDocument_of_parse hvalue]
      simp
    | error e =>
      rw [successDocument]
      by_cases hblank : Text.blank body = true
      · simp [hblank]
      · simp [hcode, hblank, hvalue, eq_comm]
  · simp [hcode]

/-- An answer is a document exactly if its code is a success and its body is blank or JSON, and is
undecodable exactly if it is a success with another body. With any other code it is a failure under
this code, with the message that it ought to have unless the first text for one is blank: then that
is the message. -/
theorem documentOf_decodes (url : String) (code : Nat) (body : String) :
    let success := code = 200 ∨ code = 201
    (∀ d, documentOf url code body = .ok d ↔ success ∧
      (Text.blank body = true ∧ d = .empty ∨ ∃ v, Json.parse body = .ok v ∧ d = v.asDocument)) ∧
    (∀ place reason, documentOf url code body = .error (.decode place reason) ↔ success ∧
      Text.blank body = false ∧ place = url ∧
        ∃ e, Json.parse body = .error e ∧ reason = e.message) ∧
    (¬ success → ∃ message, documentOf url code body = .error (.status code message) ∧
      (Explains code body message ↔ ¬ BlankFirst body) ∧
      (Text.blank message = true ↔ BlankFirst body)) := by
  intro success
  refine ⟨fun d => documentOf_eq_ok_iff, fun place reason => documentOf_eq_decode_iff, ?_⟩
  intro hcode
  refine ⟨errorMessage code body, ?_, explains_errorMessage_iff code body,
    blank_errorMessage_iff code body⟩
  rw [documentOf, if_neg hcode]

/-- A blank detail hides the title behind it, and the failure says nothing. -/
theorem documentOf_says_nothing :
    let body := "\x7b\"detail\":\"\",\"title\":\"Conflicts\"\x7d"
    ¬ (409 = 200 ∨ 409 = 201) ∧ Explains 409 body "Conflicts" ∧
      documentOf "url" 409 body = .error (.status 409 "") := by
  intro body
  have hvalue : Json.parse body =
      .ok (.object [("detail", .string ""), ("title", .string "Conflicts")]) := by
    have hchars : body.toList = ['{', '"', 'd', 'e', 't', 'a', 'i', 'l', '"', ':', '"', '"', ',',
      '"', 't', 'i', 't', 'l', 'e', '"', ':', '"', 'C', 'o', 'n', 'f', 'l', 'i', 'c', 't', 's', '"',
      '}'] := by decide +kernel
    rw [Json.parse, Json.parseWithin, hchars]
    rfl
  refine ⟨by decide, .inl ⟨["detail"], "title", ["message"], rfl, ⟨_, hvalue, rfl⟩, by decide, ?_⟩, ?_⟩
  · intro key hkey text hcarries
    obtain rfl := List.mem_singleton.mp hkey
    obtain ⟨members, hmembers, htext⟩ := hcarries
    obtain rfl := Json.object.inj (Except.ok.inj (hvalue.symm.trans hmembers))
    obtain rfl : "" = text := Json.string.inj (Option.some.inj htext)
    decide
  · rw [documentOf, if_neg (by decide), errorMessage, hvalue]
    rfl

end Http

end TwinCatalogue
