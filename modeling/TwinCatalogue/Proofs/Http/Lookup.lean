import Mathlib.Data.List.Infix
import TwinCatalogue.Http.Failure
import TwinCatalogue.Proofs.Text.Trim

/-! Whether a failure speaks of looking up a name. The causes are searched as one text, but a phrase
is found there exactly if it stands in one of them: no phrase has a colon, and none begins with a
space, so none can reach over what is put between two causes. -/

namespace TwinCatalogue

namespace Text

variable {pattern word before after cs : List Char} {mark : Char}

theorem occursIn_iff_infix : occursIn pattern cs = true ↔ pattern <:+: cs := by
  induction cs with
  | nil => rw [occursIn, List.isEmpty_iff, List.infix_nil]
  | cons c cs ih =>
    rw [occursIn, Bool.or_eq_true, List.isPrefixOf_iff_prefix, ih, List.infix_cons_iff]

theorem prefix_cons_iff_of_head?_ne (hhead : word.head? ≠ some mark) :
    word <+: mark :: after ↔ word = [] := by
  rw [List.prefix_cons_iff]
  refine ⟨?_, .inl⟩
  rintro (hnil | ⟨rest, rfl, -⟩)
  · exact hnil
  · exact absurd rfl hhead

/-- A word that does not begin with a mark is found behind it only. -/
theorem infix_cons_iff_of_head?_ne (hhead : word.head? ≠ some mark) :
    word <:+: mark :: after ↔ word <:+: after := by
  rw [List.infix_cons_iff, prefix_cons_iff_of_head?_ne hhead, or_iff_right_of_imp]
  rintro rfl
  exact List.nil_infix

/-- A word without a mark is found on one side of it. -/
theorem infix_append_cons_iff (hmark : mark ∉ word) :
    word <:+: before ++ mark :: after ↔ word <:+: before ∨ word <:+: after := by
  have hhead : word.head? ≠ some mark := fun h => hmark (List.mem_of_head? h)
  rw [List.infix_append_iff, infix_cons_iff_of_head?_ne hhead]
  refine ⟨?_, Or.imp_right .inl⟩
  rintro (hbefore | hafter | ⟨ending, beginning, rfl, hending, hbeginning⟩)
  · exact .inl hbefore
  · exact .inr hafter
  · have hnone : beginning.head? ≠ some mark :=
      fun h => hmark (List.mem_append_right _ (List.mem_of_head? h))
    rw [(prefix_cons_iff_of_head?_ne hnone).mp hbeginning, List.append_nil]
    exact .inl hending.isInfix

end Text

namespace Http

/-- A message in which a phrase stands somewhere, in small or capital letters. -/
def Mentions (message phrase : String) : Prop :=
  ∃ word, word <:+: message.toList ∧ word.map Char.toLower = phrase.toList.map Char.toLower

/-- A word that can share no character with what is put between causes. -/
structure Apart (word : List Char) : Prop where
  nonempty : word ≠ []
  colon : ':' ∉ word
  space : word.head? ≠ some ' '

theorem Apart.of_map_toLower {word : List Char} (h : Apart (word.map Char.toLower)) :
    Apart word where
  nonempty := fun hnil => h.nonempty (List.map_eq_nil_iff.mpr hnil)
  colon := fun hcolon => h.colon (List.mem_map_of_mem hcolon)
  space := by
    intro hspace
    apply h.space
    rw [List.head?_map, hspace]
    rfl

theorem apart_of_mem_lookupPhrases {phrase : String} (h : phrase ∈ lookupPhrases) :
    Apart (phrase.toList.map Char.toLower) := by
  have hall : lookupPhrases.all (fun phrase =>
      let word := phrase.toList.map Char.toLower
      !word.isEmpty && !word.contains ':' && word.head? != some ' ') = true := by decide
  have hphrase := List.all_eq_true.mp hall phrase h
  simp only [Bool.and_eq_true, Bool.not_eq_true', bne_iff_ne] at hphrase
  obtain ⟨⟨hnonempty, hcolon⟩, hspace⟩ := hphrase
  exact ⟨List.isEmpty_eq_false_iff.mp hnonempty, by simpa using hcolon, hspace⟩

theorem joined_cons_cons (first second : String) (rest : List String) :
    (joined (first :: second :: rest)).toList =
      first.toList ++ ':' :: ' ' :: (joined (second :: rest)).toList := by
  rw [joined, String.intercalate_cons_cons, String.toList_append, String.toList_append,
    List.append_assoc]
  rfl

theorem infix_joined_iff {word : List Char} (h : Apart word) (causes : List String) :
    word <:+: (joined causes).toList ↔ ∃ cause ∈ causes, word <:+: cause.toList := by
  induction causes with
  | nil => simp [joined, h.nonempty]
  | cons first rest ih =>
    cases rest with
    | nil => simp [joined]
    | cons second rest =>
      rw [joined_cons_cons, Text.infix_append_cons_iff h.colon,
        Text.infix_cons_iff_of_head?_ne h.space, List.exists_mem_cons_iff]
      exact or_congr_right ih

theorem mentions_joined_iff {phrase : String} (h : phrase ∈ lookupPhrases)
    (causes : List String) :
    Mentions (joined causes) phrase ↔ ∃ cause ∈ causes, Mentions cause phrase := by
  have hword : ∀ word : List Char, word.map Char.toLower = phrase.toList.map Char.toLower →
      Apart word := fun word hword => .of_map_toLower (hword ▸ apart_of_mem_lookupPhrases h)
  constructor
  · rintro ⟨word, hjoined, heq⟩
    obtain ⟨cause, hcause, hinfix⟩ := (infix_joined_iff (hword word heq) causes).mp hjoined
    exact ⟨cause, hcause, word, hinfix, heq⟩
  · rintro ⟨cause, hcause, word, hinfix, heq⟩
    exact ⟨word, (infix_joined_iff (hword word heq) causes).mpr ⟨cause, hcause, hinfix⟩, heq⟩

theorem mentionsLookup_iff (s : String) :
    mentionsLookup s = true ↔ ∃ phrase ∈ lookupPhrases, Mentions s phrase := by
  have hsmall : lookupPhrases.all
      (fun phrase => phrase.toList.map Char.toLower == phrase.toList) = true := by decide
  rw [mentionsLookup, List.any_eq_true]
  refine exists_congr fun phrase => and_congr_right fun hphrase => ?_
  have hlower : phrase.toList.map Char.toLower = phrase.toList := by
    simpa using List.all_eq_true.mp hsmall phrase hphrase
  rw [Text.occursIn_iff_infix, Text.lowerAscii, String.toList_ofList, List.infix_map_iff, Mentions,
    hlower]
  simp only [eq_comm]

theorem unrecoverable_storeError_iff (url : String) (e : ExchangeError) :
    (e.storeError url).unrecoverable = true ↔
      e.stage = .connecting ∧ mentionsLookup (joined e.causes) = true := by
  obtain ⟨stage, causes⟩ := e
  cases stage with
  | connecting =>
    cases h : mentionsLookup (joined causes) <;>
      simp [ExchangeError.storeError, StoreError.unrecoverable, h]
  | _ => simp [ExchangeError.storeError, StoreError.unrecoverable]

/-- The joined causes of a failure speak of a look-up exactly if a single one of them has a phrase
for it, and it is this that ends the attempts at once when the failure was one to connect. -/
theorem mentionsLookup_joined (url : String) (e : ExchangeError) :
    let phrases := ["dns error", "failed to lookup address", "name or service not known",
      "no such host"]
    let found := ∃ cause ∈ e.causes, ∃ phrase ∈ phrases, Mentions cause phrase
    (mentionsLookup (joined e.causes) = true ↔ found) ∧
      ((e.storeError url).unrecoverable = true ↔ e.stage = .connecting ∧ found) := by
  intro phrases found
  have hfound : mentionsLookup (joined e.causes) = true ↔ found := by
    rw [mentionsLookup_iff]
    constructor
    · rintro ⟨phrase, hphrase, hmentions⟩
      obtain ⟨cause, hcause, h⟩ := (mentions_joined_iff hphrase e.causes).mp hmentions
      exact ⟨cause, hcause, phrase, hphrase, h⟩
    · rintro ⟨cause, hcause, phrase, hphrase, h⟩
      exact ⟨phrase, hphrase, (mentions_joined_iff hphrase e.causes).mpr ⟨cause, hcause, h⟩⟩
  exact ⟨hfound, by rw [unrecoverable_storeError_iff, hfound]⟩

/-- Two causes that make up a phrase only together speak of nothing. -/
example : mentionsLookup (joined ["tcp connect error: no such", "host"]) = false ∧
    mentionsLookup (joined ["client error (Connect)", "DNS error", "timed out"]) = true := by
  decide +kernel

end Http

end TwinCatalogue
