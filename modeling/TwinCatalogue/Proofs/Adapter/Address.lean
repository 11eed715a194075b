import TwinCatalogue.Proofs.Adapter.Contract
import TwinCatalogue.Script

/-! Where the address of a resource server stands in an answer, and which one is taken. It may stand
at the top of the answer or in the first of its results; whatever stands at the top, an address or
not, hides that of the first result. -/

namespace TwinCatalogue.Adapter

variable {σ : Type} {related : Document} {url : String}

/-- A text with a character that is no white space. -/
def IsAddress (url : String) : Prop := ∃ c ∈ url.toList, Text.isBlank c = false

def AtTop (related : Document) (value : Json) : Prop := related.get? urlKey = some value

def InFirstResult (related : Document) (value : Json) : Prop :=
  ∃ members rest, related.get? "results" = some (.array (.object members :: rest)) ∧
    members.lookup urlKey = some value

/-- The address that an answer names: the one at the top, and the one in the first result if none
is at the top. -/
def Names (related : Document) (url : String) : Prop :=
  IsAddress url ∧ (AtTop related (.string url) ∨
    InFirstResult related (.string url) ∧ ∀ other, AtTop related (.string other) → ¬ IsAddress other)

/-- An address in the first result, under something at the top that is none. -/
def Hidden (related : Document) : Prop :=
  (∃ value, AtTop related value ∧ ∀ other, value = .string other → ¬ IsAddress other) ∧
    ∃ url, InFirstResult related (.string url) ∧ IsAddress url

theorem isAddress_iff : IsAddress url ↔ (!Text.blank url) = true := by
  simp [IsAddress, Text.blank]

theorem text?_eq_some_iff {value : Json} : value.text? = some url ↔ value = .string url := by
  cases value <;> simp [Json.text?]

theorem first?_bind_get?_iff {results value : Json} :
    (results.first?).bind (Json.get? urlKey) = some value ↔
      ∃ members rest, results = .array (.object members :: rest) ∧
        members.lookup urlKey = some value := by
  constructor
  · intro h
    obtain ⟨first, hfirst, hvalue⟩ := Option.bind_eq_some_iff.mp h
    unfold Json.first? at hfirst
    split at hfirst
    · obtain rfl := Option.some.inj hfirst
      unfold Json.get? at hvalue
      split at hvalue
      · exact ⟨_, _, rfl, hvalue⟩
      · exact nomatch hvalue
    · exact nomatch hfirst
  · rintro ⟨members, rest, rfl, hvalue⟩
    exact hvalue

theorem inFirstResult_iff {value : Json} : InFirstResult related value ↔
    ((related.get? "results").bind Json.first?).bind (Json.get? urlKey) = some value := by
  rw [Option.bind_assoc, Option.bind_eq_some_iff]
  constructor
  · rintro ⟨members, rest, hresults, hvalue⟩
    exact ⟨_, hresults, first?_bind_get?_iff.mpr ⟨members, rest, rfl, hvalue⟩⟩
  · rintro ⟨results, hresults, hvalue⟩
    obtain ⟨members, rest, rfl, hvalue⟩ := first?_bind_get?_iff.mp hvalue
    exact ⟨members, rest, hresults, hvalue⟩

theorem urlMember_eq_some_iff {value : Json} : urlMember related = some value ↔
    AtTop related value ∨ related.get? urlKey = none ∧ InFirstResult related value := by
  rw [inFirstResult_iff, urlMember, AtTop]
  cases related.get? urlKey <;> simp

theorem registrationUrl_eq_some_iff : registrationUrl related = some url ↔
    IsAddress url ∧ (AtTop related (.string url) ∨
      related.get? urlKey = none ∧ InFirstResult related (.string url)) := by
  rw [registrationUrl, Option.filter_eq_some_iff, Option.bind_eq_some_iff, ← isAddress_iff,
    ← urlMember_eq_some_iff, and_comm]
  refine and_congr_right fun _ => ?_
  constructor
  · rintro ⟨value, hvalue, htext⟩
    rwa [← text?_eq_some_iff.mp htext]
  · intro hvalue
    exact ⟨_, hvalue, rfl⟩

theorem registrationUrl_eq_some_iff_names (h : ¬ Hidden related) :
    registrationUrl related = some url ↔ Names related url := by
  rw [registrationUrl_eq_some_iff, Names]
  refine and_congr_right fun hurl => ⟨?_, ?_⟩
  · rintro (htop | ⟨hnone, hfirst⟩)
    · exact .inl htop
    · exact .inr ⟨hfirst, fun other htop => nomatch hnone.symm.trans htop⟩
  · rintro (htop | ⟨hfirst, hother⟩)
    · exact .inl htop
    · cases htop : related.get? urlKey with
      | none => exact .inr ⟨rfl, hfirst⟩
      | some value =>
        have hvalue : ∀ other, value = .string other → ¬ IsAddress other := by
          rintro other rfl
          exact hother other htop
        exact absurd ⟨⟨value, htop, hvalue⟩, url, hfirst, hurl⟩ h

theorem registrationUrl_eq_none (h : Hidden related) : registrationUrl related = none := by
  obtain ⟨⟨value, htop, hvalue⟩, -⟩ := h
  refine Option.eq_none_iff_forall_ne_some.mpr fun url hfound => ?_
  obtain ⟨hurl, htop' | ⟨hnone, -⟩⟩ := registrationUrl_eq_some_iff.mp hfound
  · exact hvalue url (Option.some.inj (htop.symm.trans htop')) hurl
  · exact nomatch hnone.symm.trans htop

theorem resolve_of_some {id : String} {token : Token} {w : World σ} {s : σ}
    (hreply : (w.answer (lookup id token) s).1 = .ok related) (h : registrationUrl related = some url) :
    ((resolve id token).run w s).result = .ok url := by
  rw [resolve_run_ok hreply, h]

theorem resolve_of_none {id : String} {token : Token} {w : World σ} {s : σ}
    (hreply : (w.answer (lookup id token) s).1 = .ok related) (h : registrationUrl related = none) :
    ((resolve id token).run w s).result =
      .error (.internal ("no " ++ urlKey ++ " related to item " ++ id)) := by
  rw [resolve_run_ok hreply, h]

/-- Resolving the resource server of an item gives the address that the answer to the look-up names,
as it stands there, and an internal error if none is named. An address that is hidden by what
stands at the top of the answer is not found. -/
theorem resolve_names {id : String} {token : Token} {w : World σ} {s : σ}
    (hreply : (w.answer (lookup id token) s).1 = .ok related) :
    let result := ((resolve id token).run w s).result
    let unresolved := OnboardError.internal ("no resourceServerRegURL related to item " ++ id)
    (¬ Hidden related →
      (∀ url, result = .ok url ↔ Names related url) ∧
        ((∀ url, ¬ Names related url) → result = .error unresolved)) ∧
    (Hidden related → result = .error unresolved) := by
  intro result unresolved
  refine ⟨fun hhidden => ⟨fun url => ?_, fun hnames => ?_⟩, fun hhidden => ?_⟩
  · rw [← registrationUrl_eq_some_iff_names hhidden]
    cases hfound : registrationUrl related with
    | none => simp [result, resolve_of_none hreply hfound]
    | some found => simp [result, resolve_of_some hreply hfound]
  · refine resolve_of_none hreply (Option.eq_none_iff_forall_ne_some.mpr fun url hfound => ?_)
    exact hnames url ((registrationUrl_eq_some_iff_names hhidden).mp hfound)
  · exact resolve_of_none hreply (registrationUrl_eq_none hhidden)

/-- The local catalogue answers every look-up with this document. -/
def answering (related : Document) : Script :=
  Script.empty.addCalls (.related .localSide) [] (some (.ok related))

/-- Of two addresses the one at the top is taken, with the white space around it. -/
theorem resolve_names_top :
    let inner := Json.object [(urlKey, .string "http://rs/inner")]
    let related : Document :=
      ⟨[(urlKey, .string " http://rs/outer\n"), ("results", .array [inner])]⟩
    (Script.world.answer (lookup "aqm" ⟨"token"⟩) (answering related)).1 = .ok related ∧
      ¬ Hidden related ∧
      ((resolve "aqm" ⟨"token"⟩).run Script.world (answering related)).result =
        .ok " http://rs/outer\n" := by
  intro inner related
  have hreply : (Script.world.answer (lookup "aqm" ⟨"token"⟩) (answering related)).1 =
      .ok related := rfl
  have haddress : IsAddress " http://rs/outer\n" := ⟨'h', by decide, by decide⟩
  have htop : AtTop related (.string " http://rs/outer\n") := rfl
  have hhidden : ¬ Hidden related := by
    rintro ⟨⟨value, hmember, hvalue⟩, -⟩
    exact hvalue _ (Option.some.inj (hmember.symm.trans htop)) haddress
  exact ⟨hreply, hhidden, (((resolve_names hreply).1 hhidden).1 _).mpr ⟨haddress, .inl htop⟩⟩

/-- A null at the top is enough to hide the address in the first result. -/
theorem address_overlooked :
    let inner := Json.object [(urlKey, .string "http://rs/register")]
    let related : Document := ⟨[(urlKey, .null), ("results", .array [inner])]⟩
    InFirstResult related (.string "http://rs/register") ∧ IsAddress "http://rs/register" ∧
      (∀ other, ¬ AtTop related (.string other)) ∧
      ((resolve "aqm" ⟨"token"⟩).run Script.world (answering related)).result =
        .error (.internal "no resourceServerRegURL related to item aqm") := by
  intro inner related
  have hnull : AtTop related .null := rfl
  have htop : ∀ other, ¬ AtTop related (.string other) := fun other h =>
    nomatch Option.some.inj (hnull.symm.trans h)
  exact ⟨⟨_, [], rfl, rfl⟩, ⟨'h', by decide, by decide⟩, htop, rfl⟩

end TwinCatalogue.Adapter
