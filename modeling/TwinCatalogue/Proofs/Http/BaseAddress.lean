import Mathlib.Data.List.Infix
import TwinCatalogue.Adapter
import TwinCatalogue.Http.Calls
import TwinCatalogue.Proofs.Text.Trim

/-! The form in which the address of a resource server is called. A scheme stands in front and the
slashes behind are gone, but what stands before the slashes is taken as it is: with white space
there, or with slashes alone, the form is not final. -/

namespace TwinCatalogue

namespace Http

/-- The characters do not end in a slash or in white space. -/
def EndsPlain (cs : List Char) : Prop := ∀ c ∈ cs.getLast?, c ≠ '/' ∧ Text.isBlank c = false

def HasScheme (cs : List Char) : Prop :=
  "http://".toList <+: cs ∨ "https://".toList <+: cs

/-- An address as it is called: without white space and slashes at its end, but with a scheme. -/
structure Canonical (url : String) : Prop where
  scheme : HasScheme url.toList
  plain : EndsPlain url.toList

/-- The name that a text spells with slashes right behind it and white space around. -/
structure Spells (raw : String) (word : List Char) : Prop where
  surrounds : ∃ slashes, (∀ c ∈ slashes, c = '/') ∧
    Text.Surrounds Text.isBlank raw.toList (word ++ slashes)
  starts : ∃ c ∈ word.head?, Text.isBlank c = false
  plain : EndsPlain word

/-- What is left of a text without the white space around it and the slashes behind. -/
def core (raw : String) : List Char :=
  Text.dropEndWhile (· == '/') (Text.stripWhile Text.isBlank raw.toList)

theorem isHttpUrl_iff {url : String} : Config.isHttpUrl url = true ↔ HasScheme url.toList := by
  rw [Config.isHttpUrl, Bool.or_eq_true, Text.startsWith, Text.startsWith,
    List.isPrefixOf_iff_prefix, List.isPrefixOf_iff_prefix]
  rfl

theorem toList_normalizeBaseUrl (raw : String) :
    (HasScheme (core raw) → (normalizeBaseUrl raw).toList = core raw) ∧
    (¬ HasScheme (core raw) → (normalizeBaseUrl raw).toList = "https://".toList ++ core raw) := by
  have hcore : (Text.trimEndSlashes (Text.trim raw)).toList = core raw := by
    simp [Text.trimEndSlashes, Text.trim, core]
  rw [normalizeBaseUrl, ← hcore, ← isHttpUrl_iff]
  constructor
  · intro h
    rw [if_pos h]
  · intro h
    rw [if_neg h, String.toList_append]

theorem hasScheme_normalizeBaseUrl (raw : String) : HasScheme (normalizeBaseUrl raw).toList := by
  by_cases h : HasScheme (core raw)
  · rw [(toList_normalizeBaseUrl raw).1 h]
    exact h
  · rw [(toList_normalizeBaseUrl raw).2 h]
    exact .inr (List.prefix_append _ _)

theorem getLast?_core_ne_slash {raw : String} {c : Char} (h : c ∈ (core raw).getLast?) :
    c ≠ '/' := by
  obtain ⟨hne, rfl⟩ := List.mem_getLast?_eq_getLast h
  have hlast : ¬ ((core raw).getLast hne == '/') = true := List.rdropWhile_last_not _ _ hne
  simpa using hlast

theorem core_ne_nil_of_hasScheme {cs : List Char} (h : HasScheme cs) : cs ≠ [] := by
  rintro rfl
  rcases h with h | h
  · exact absurd (List.prefix_nil.mp h) (by decide)
  · exact absurd (List.prefix_nil.mp h) (by decide)

theorem endsPlain_normalizeBaseUrl_iff (raw : String) :
    EndsPlain (normalizeBaseUrl raw).toList ↔ core raw ≠ [] ∧ EndsPlain (core raw) := by
  by_cases h : HasScheme (core raw)
  · rw [(toList_normalizeBaseUrl raw).1 h]
    exact ⟨fun hplain => ⟨core_ne_nil_of_hasScheme h, hplain⟩, fun hplain => hplain.2⟩
  · rw [(toList_normalizeBaseUrl raw).2 h]
    by_cases hnil : core raw = []
    · rw [hnil, List.append_nil]
      constructor
      · intro hplain
        exact absurd rfl (hplain '/' rfl).1
      · rintro ⟨hne, -⟩
        exact absurd rfl hne
    · rw [EndsPlain, List.getLast?_append_of_ne_nil _ hnil]
      exact ⟨fun hplain => ⟨hnil, hplain⟩, fun hplain => hplain.2⟩

theorem Spells.core_eq {raw : String} {word : List Char} (h : Spells raw word) :
    core raw = word := by
  obtain ⟨slashes, hslashes, hsurrounds⟩ := h.surrounds
  obtain ⟨c, hc, hblank⟩ := h.starts
  obtain ⟨rest, rfl⟩ : ∃ rest, word = c :: rest := List.head?_eq_some_iff.mp hc
  have hlast : ∀ d ∈ (c :: rest).getLast?, d ≠ '/' ∧ Text.isBlank d = false := h.plain
  have hstrip : Text.stripWhile Text.isBlank raw.toList = c :: rest ++ slashes := by
    refine hsurrounds.stripWhile_eq (by simp) hblank ?_
    by_cases hnil : slashes = []
    · subst hnil
      simp only [List.append_nil]
      exact (hlast _ (List.getLast?_eq_some_getLast _)).2
    · rw [List.getLast_append_of_ne_nil _ hnil, hslashes _ (List.getLast_mem hnil)]
      rfl
  rw [core, hstrip, Text.dropEndWhile_append (by simpa using hslashes),
    Text.dropEndWhile_eq_self_iff]
  intro c hc
  simpa using (hlast c hc).1

theorem core_append_slashes (raw : String) : ∃ slashes, (∀ c ∈ slashes, c = '/') ∧
    core raw ++ slashes = Text.stripWhile Text.isBlank raw.toList := by
  refine ⟨_, fun c hc => ?_, List.rdropWhile_append_rtakeWhile ..⟩
  simpa using List.mem_rtakeWhile_imp hc

theorem spells_core {raw : String} (hne : core raw ≠ []) (hplain : EndsPlain (core raw)) :
    Spells raw (core raw) := by
  obtain ⟨slashes, hslashes, hstrip⟩ := core_append_slashes raw
  refine ⟨⟨slashes, hslashes, hstrip ▸ Text.surrounds_stripWhile _ _⟩, ?_, hplain⟩
  refine ⟨(core raw).head hne, List.head?_eq_some_head hne, ?_⟩
  have hword : Text.stripWhile Text.isBlank raw.toList ≠ [] := by
    rw [← hstrip]
    simp [hne]
  have hhead := Text.head_stripWhile hword
  simpa only [← hstrip, List.head_append_of_ne_nil hne] using hhead

theorem endsPlain_of_core_eq {url : String} (h : core url = url.toList) :
    EndsPlain url.toList := by
  obtain ⟨slashes, -, hstrip⟩ := core_append_slashes url
  have hlength := Text.stripWhile_length_le Text.isBlank url.toList
  rw [← hstrip, h, List.length_append] at hlength
  have hnil : slashes = [] := List.eq_nil_of_length_eq_zero (by omega)
  rw [hnil, List.append_nil, h] at hstrip
  intro c hc
  refine ⟨getLast?_core_ne_slash (h ▸ hc), ?_⟩
  obtain ⟨hne, rfl⟩ := List.mem_getLast?_eq_getLast hc
  have hlast := Text.getLast_stripWhile (hstrip ▸ hne)
  simpa only [← hstrip] using hlast

theorem canonical_normalizeBaseUrl_iff (raw : String) :
    Canonical (normalizeBaseUrl raw) ↔ ∃ word, Spells raw word := by
  constructor
  · intro h
    obtain ⟨hne, hplain⟩ := (endsPlain_normalizeBaseUrl_iff raw).mp h.plain
    exact ⟨core raw, spells_core hne hplain⟩
  · rintro ⟨word, h⟩
    obtain ⟨c, hc, -⟩ := h.starts
    refine ⟨hasScheme_normalizeBaseUrl raw, (endsPlain_normalizeBaseUrl_iff raw).mpr ?_⟩
    rw [h.core_eq]
    refine ⟨?_, h.plain⟩
    rintro rfl
    exact nomatch hc

theorem spells_of_canonical {url : String} (h : Canonical url) : Spells url url.toList := by
  refine ⟨⟨[], nofun, [], [], by simp, nofun, nofun⟩, ?_, h.plain⟩
  obtain ⟨rest, hrest⟩ | ⟨rest, hrest⟩ := h.scheme
  · rw [← hrest]
    exact ⟨'h', rfl, rfl⟩
  · rw [← hrest]
    exact ⟨'h', rfl, rfl⟩

/-- A scheme that was put in front of a text was not put in front of the text with the scheme. -/
theorem core_eq_of_normalizeBaseUrl_eq {url : String} (h : normalizeBaseUrl url = url) :
    core url = url.toList := by
  by_cases hscheme : HasScheme (core url)
  · rw [← (toList_normalizeBaseUrl url).1 hscheme, h]
  · have hurl : url.toList = "https://".toList ++ core url := by
      rw [← (toList_normalizeBaseUrl url).2 hscheme, h]
    have hprefix : core url <+: "https://".toList ++ core url := by
      have hdrop : url.toList.dropWhile Text.isBlank = url.toList := by
        rw [hurl]
        rfl
      rw [← hurl, ← hdrop]
      exact (List.rdropWhile_prefix _ _).trans (Text.stripWhile_prefix_dropWhile _ _)
    have hshort : core url <+: "https://".toList := by
      rcases List.prefix_or_prefix_of_prefix hprefix (List.prefix_append _ _) with hle | hge
      · exact hle
      · exact absurd (.inr hge) hscheme
    have hnone : ∀ short ∈ "https://".toList.inits, Text.dropEndWhile (· == '/')
        (Text.stripWhile Text.isBlank ("https://".toList ++ short)) ≠ short := by decide
    refine absurd ?_ (hnone _ ((List.mem_inits _ _).mpr hshort))
    rw [← hurl]
    rfl

/-- The form is final exactly for the canonical addresses. -/
theorem normalizeBaseUrl_eq_self_iff {url : String} :
    normalizeBaseUrl url = url ↔ Canonical url := by
  constructor
  · intro h
    have hscheme : HasScheme url.toList := h ▸ hasScheme_normalizeBaseUrl url
    exact ⟨hscheme, endsPlain_of_core_eq (core_eq_of_normalizeBaseUrl_eq h)⟩
  · intro h
    have hcore : core url = url.toList := (spells_of_canonical h).core_eq
    rw [← String.toList_inj, (toList_normalizeBaseUrl url).1 (hcore ▸ h.scheme), hcore]

/-- The form of an address always has a scheme. It is canonical, and taken once more it does not
change, exactly if the text spells a name: then it is that name, with a scheme. -/
theorem normalizeBaseUrl_canonical (raw : String) :
    HasScheme (normalizeBaseUrl raw).toList ∧
    (Canonical (normalizeBaseUrl raw) ↔ ∃ word, Spells raw word) ∧
    (normalizeBaseUrl (normalizeBaseUrl raw) = normalizeBaseUrl raw ↔ ∃ word, Spells raw word) ∧
    ∀ word, Spells raw word →
      (HasScheme word → (normalizeBaseUrl raw).toList = word) ∧
      (¬ HasScheme word → (normalizeBaseUrl raw).toList = "https://".toList ++ word) := by
  refine ⟨hasScheme_normalizeBaseUrl raw, canonical_normalizeBaseUrl_iff raw,
    normalizeBaseUrl_eq_self_iff.trans (canonical_normalizeBaseUrl_iff raw), ?_⟩
  intro word h
  rw [← h.core_eq]
  exact toList_normalizeBaseUrl raw

theorem normalizeBaseUrl_canonical_spelled :
    let raw := "\u2003http://rs.example.org/ngsi//\n"
    let word := "http://rs.example.org/ngsi".toList
    Spells raw word ∧ Canonical (normalizeBaseUrl raw) ∧
      normalizeBaseUrl (normalizeBaseUrl raw) = normalizeBaseUrl raw ∧
      (normalizeBaseUrl raw).toList = word := by
  intro raw word
  have hsurrounds : Text.Surrounds Text.isBlank raw.toList (word ++ ['/', '/']) :=
    ⟨['\u2003'], ['\n'], by decide, List.all_eq_true.mp (by decide),
      List.all_eq_true.mp (by decide)⟩
  have hplain : EndsPlain word := by
    intro c hc
    obtain rfl : 'i' = c := Option.some.inj hc
    decide
  have hspells : Spells raw word :=
    ⟨⟨['/', '/'], by simp, hsurrounds⟩, ⟨'h', by decide, by decide⟩, hplain⟩
  obtain ⟨-, hcanonical, hfinal, hword⟩ := normalizeBaseUrl_canonical raw
  exact ⟨hspells, hcanonical.mpr ⟨word, hspells⟩, hfinal.mpr ⟨word, hspells⟩,
    (hword word hspells).1 (.inl (by decide))⟩

/-- Behind a blank before the slash, and with a slash alone, an address is called that is not
canonical, and taken once more it is another one. -/
theorem normalizeBaseUrl_not_final :
    Adapter.registrationUrl ⟨[(Adapter.urlKey, .string "rs.example.org /")]⟩ =
      some "rs.example.org /" ∧
    normalizeBaseUrl "rs.example.org /" = "https://rs.example.org " ∧
    normalizeBaseUrl "https://rs.example.org " = "https://rs.example.org" ∧
    Adapter.registrationUrl ⟨[(Adapter.urlKey, .string "/")]⟩ = some "/" ∧
    normalizeBaseUrl "/" = "https://" ∧ normalizeBaseUrl "https://" = "https://https:" := by
  decide +kernel

end Http

end TwinCatalogue
