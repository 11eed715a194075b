import Mathlib.Data.List.DropRight
import TwinCatalogue.Text.Blank

/-! Removing the characters of a class from both ends of a text leaves the part between them. -/

namespace TwinCatalogue.Text

variable {p : Char → Bool} {cs word trail : List Char}

/-- The characters are `word`, with nothing but characters of a class before and behind it. -/
def Surrounds (p : Char → Bool) (cs word : List Char) : Prop :=
  ∃ lead trail, cs = lead ++ (word ++ trail) ∧ (∀ c ∈ lead, p c = true) ∧ ∀ c ∈ trail, p c = true

theorem dropEndWhile_eq_rdropWhile (p : Char → Bool) (cs : List Char) :
    dropEndWhile p cs = cs.rdropWhile p := rfl

theorem dropEndWhile_eq_self_iff :
    dropEndWhile p cs = cs ↔ ∀ c ∈ cs.getLast?, p c = false := by
  rw [dropEndWhile_eq_rdropWhile, List.rdropWhile_eq_self_iff]
  constructor
  · intro h c hc
    obtain ⟨hne, rfl⟩ := List.mem_getLast?_eq_getLast hc
    exact Bool.eq_false_iff.mpr (h hne)
  · intro h hne
    exact Bool.eq_false_iff.mp (h _ (List.getLast?_eq_some_getLast hne))

theorem dropEndWhile_append (htrail : ∀ c ∈ trail, p c = true) (cs : List Char) :
    dropEndWhile p (cs ++ trail) = dropEndWhile p cs := by
  rw [dropEndWhile, List.reverse_append, List.dropWhile_append_of_pos]
  · rfl
  · intro c hc
    exact htrail c (List.mem_reverse.mp hc)

theorem surrounds_stripWhile (p : Char → Bool) (cs : List Char) :
    Surrounds p cs (stripWhile p cs) := by
  refine ⟨cs.takeWhile p, (cs.dropWhile p).rtakeWhile p, ?_, fun c hc => List.mem_takeWhile_imp hc,
    fun c hc => List.mem_rtakeWhile_imp hc⟩
  rw [stripWhile, dropEndWhile_eq_rdropWhile, List.rdropWhile_append_rtakeWhile,
    List.takeWhile_append_dropWhile]

/-- What is stripped off a text is all that lies around a part whose own ends are not of the
class. -/
theorem Surrounds.stripWhile_eq (h : Surrounds p cs word) (hword : word ≠ [])
    (hhead : p (word.head hword) = false) (hlast : p (word.getLast hword) = false) :
    stripWhile p cs = word := by
  obtain ⟨lead, trail, rfl, hlead, htrail⟩ := h
  have hstart : (word ++ trail).dropWhile p = word ++ trail := by
    obtain ⟨c, rest, rfl⟩ := List.exists_cons_of_ne_nil hword
    exact List.dropWhile_cons_of_neg (Bool.not_eq_true _ ▸ hhead)
  rw [stripWhile, List.dropWhile_append_of_pos hlead, hstart, dropEndWhile_append htrail,
    dropEndWhile_eq_rdropWhile, List.rdropWhile_eq_self_iff]
  intro _
  rw [hlast]
  exact Bool.false_ne_true

theorem stripWhile_prefix_dropWhile (p : Char → Bool) (cs : List Char) :
    stripWhile p cs <+: cs.dropWhile p := by
  rw [stripWhile, dropEndWhile_eq_rdropWhile]
  exact List.rdropWhile_prefix p (cs.dropWhile p)

theorem head_stripWhile (h : stripWhile p cs ≠ []) : p ((stripWhile p cs).head h) = false := by
  obtain ⟨rest, hrest⟩ := stripWhile_prefix_dropWhile p cs
  have hdrop : cs.dropWhile p ≠ [] := by
    rw [← hrest]
    simp [h]
  have hhead : (stripWhile p cs).head h = (cs.dropWhile p).head hdrop := by
    simp only [← hrest, List.head_append_of_ne_nil h]
  rw [hhead]
  exact List.head_dropWhile_not p hdrop

theorem getLast_stripWhile (h : stripWhile p cs ≠ []) :
    p ((stripWhile p cs).getLast h) = false := by
  have hlast : ¬ p ((stripWhile p cs).getLast h) = true := List.rdropWhile_last_not p _ h
  simpa using hlast

theorem stripWhile_length_le (p : Char → Bool) (cs : List Char) :
    (stripWhile p cs).length ≤ cs.length :=
  (stripWhile_prefix_dropWhile p cs).length_le.trans (List.length_dropWhile_le p cs)

theorem stripWhile_eq_nil_iff : stripWhile p cs = [] ↔ ∀ c ∈ cs, p c = true := by
  constructor
  · intro h c hc
    obtain ⟨lead, trail, hcs, hlead, htrail⟩ := surrounds_stripWhile p cs
    rw [hcs, h, List.nil_append] at hc
    rcases List.mem_append.mp hc with hc | hc
    · exact hlead c hc
    · exact htrail c hc
  · intro h
    rw [stripWhile, List.dropWhile_eq_nil_iff.mpr h]
    rfl

theorem toLower_eq_self_or (c : Char) :
    c.toLower = c ∨ 65 ≤ c.toNat ∧ c.toNat ≤ 90 ∧ c.toLower.toNat = c.toNat + 32 := by
  by_cases hcase : c.val ≥ 'A'.val ∧ c.val ≤ 'Z'.val
  · have hlow : 65 ≤ c.toNat := UInt32.le_iff_toNat_le.mp hcase.1
    have hhigh : c.toNat ≤ 90 := UInt32.le_iff_toNat_le.mp hcase.2
    have hlower : c.toLower.toNat = (c.toNat + 32) % 4294967296 :=
      congrArg Char.toNat (dif_pos hcase : c.toLower = _)
    exact .inr ⟨hlow, hhigh, by omega⟩
  · exact .inl (dif_neg hcase)

/-- A character that is no letter is the lower-case form of itself alone. -/
theorem eq_of_toLower_eq {c d : Char} (h : c.toLower = d) (hd : d.toNat < 97) : c = d := by
  subst h
  rcases toLower_eq_self_or c with hself | hupper
  · exact hself.symm
  · omega

/-- No white space is an upper-case letter. -/
theorem toLower_of_isBlank {c : Char} (h : isBlank c = true) : c.toLower = c := by
  rcases toLower_eq_self_or c with hself | ⟨hlow, hhigh, -⟩
  · exact hself
  · simp only [isBlank, Bool.or_eq_true, Bool.and_eq_true, decide_eq_true_eq, beq_iff_eq] at h
    omega

end TwinCatalogue.Text
