import TwinCatalogue.Activity

/-! What holds of every event in view of those before it. -/

namespace TwinCatalogue.Event

def Guarded (P : List Event → Event → Prop) (events : List Event) : Prop :=
  ∀ before e after, events = before ++ e :: after → P before e

variable {P : List Event → Event → Prop} {first second events : List Event}

theorem guarded_of_forall (h : ∀ e ∈ events, ∀ before, P before e) : Guarded P events := by
  rintro before e after rfl
  exact h e (List.mem_append_right _ List.mem_cons_self) before

/-- The events of a second part have those of the first before them, and more. -/
theorem Guarded.append (h : Guarded P first)
    (h' : Guarded (fun before => P (first ++ before)) second) : Guarded P (first ++ second) := by
  intro before e after hsplit
  rcases List.append_eq_append_iff.mp hsplit with ⟨front, rfl, hsecond⟩ | ⟨back, hfirst, hrest⟩
  · exact h' front e after hsecond
  · rcases List.append_eq_cons_iff.mp hrest.symm with ⟨rfl, hsecond⟩ | ⟨rest, rfl, -⟩
    · have hp : P (first ++ []) e := h' [] e after hsecond
      rw [List.append_nil] at hp hfirst
      exact hfirst ▸ hp
    · exact h before e rest hfirst

theorem Guarded.mono {Q : List Event → Event → Prop} (h : Guarded P events)
    (hPQ : ∀ before, ∀ e ∈ events, P before e → Q before e) : Guarded Q events := by
  rintro before e after rfl
  exact hPQ before e (List.mem_append_right _ List.mem_cons_self) (h before e after rfl)

end TwinCatalogue.Event
