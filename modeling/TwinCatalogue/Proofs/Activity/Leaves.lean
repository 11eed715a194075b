import TwinCatalogue.Proofs.Retry.Attempts

/-! Properties of all events that an activity leaves behind, in any world. Retrying adds its own
records, counts and waits to those of the operation, and nothing else. -/

namespace TwinCatalogue

/-- Events that hand over no repair and count nothing but retries. -/
def Event.Quiet : Event → Prop
  | dispatched _ => False
  | counted counter => counter = .retries
  | _ => True

theorem Event.tasks_of_quiet {events : List Event} (h : ∀ e ∈ events, e.Quiet) :
    Event.tasks events = [] := by
  rw [Event.tasks, List.filterMap_eq_nil_iff]
  intro e he
  cases e with
  | dispatched task => exact (h _ he).elim
  | _ => rfl

namespace Activity

variable {σ α β : Type}

def Leaves (x : Activity σ α) (K : Event → Prop) : Prop :=
  ∀ w s, ∀ e ∈ (x.run w s).events, K e

theorem leaves_pure (a : α) (K : Event → Prop) : (pure a : Activity σ α).Leaves K := by
  intro w s e he
  exact absurd he List.not_mem_nil

theorem Leaves.bind {x : Activity σ α} {f : α → Activity σ β} {K : Event → Prop}
    (hx : x.Leaves K) (hf : ∀ a, (f a).Leaves K) : (x >>= f).Leaves K := by
  intro w s e he
  rcases List.mem_append.mp he with h | h
  · exact hx w s e h
  · exact hf _ w _ e h

theorem leaves_call {call : Call} {K : Event → Prop} (h : ∀ reply, K (.called call reply)) :
    (Activity.call call : Activity σ Reply).Leaves K := by
  intro w s e he
  rw [List.mem_singleton.mp he]
  exact h _

theorem leaves_mint {K : Event → Prop} (h : ∀ reply, K (.minted reply)) :
    (mint : Activity σ _).Leaves K := by
  intro w s e he
  rw [List.mem_singleton.mp he]
  exact h _

theorem leaves_execute {p : RetryPolicy} {counted : Bool}
    {operation : Activity σ (Except StoreError α)} {K : Event → Prop} (hop : operation.Leaves K)
    (hretrying : ∀ n limit delay e, K (.logged (.retrying n limit delay e)))
    (hlast : ∀ n e, K (.logged (.notRetrying n e))) (hcount : K (.counted .retries))
    (hwait : ∀ milliseconds, K (.waited milliseconds)) :
    (p.execute counted operation).Leaves K := by
  intro w s e he
  obtain ⟨m, -, -, hrun⟩ := p.execute_run counted operation w s
  rw [hrun] at he
  have hpause : ∀ n milliseconds (reply : Except StoreError α),
      ∀ e ∈ p.pauseEvents counted n milliseconds reply, K e := by
    intro n milliseconds reply e he
    cases reply with
    | ok a => exact absurd he List.not_mem_nil
    | error error =>
      rcases List.mem_cons.mp he with rfl | he
      · exact hretrying _ _ _ _
      · cases counted <;> simp at he
        · exact he ▸ hwait _
        · rcases he with rfl | rfl
          · exact hcount
          · exact hwait _
  have hparting : ∀ n (reply : Except StoreError α), ∀ e ∈ p.partingEvents n reply, K e := by
    intro n reply e he
    cases reply with
    | ok a => exact absurd he List.not_mem_nil
    | error error =>
      cases ha : p.abortOn error <;> simp [RetryPolicy.partingEvents, ha] at he
      exact he ▸ hlast _ _
  rcases List.mem_append.mp he with h | h
  · obtain ⟨j, -, hj⟩ := List.mem_flatMap.mp h
    rcases List.mem_append.mp hj with hj | hj
    · exact hop _ _ e hj
    · exact hpause _ _ _ e hj
  · rcases List.mem_append.mp h with h | h
    · exact hop _ _ e h
    · exact hparting _ _ e h

theorem quiet_call (call : Call) : (Activity.call call : Activity σ Reply).Leaves Event.Quiet :=
  leaves_call fun _ => trivial

theorem quiet_mint : (mint : Activity σ _).Leaves Event.Quiet := leaves_mint fun _ => trivial

theorem quiet_execute {p : RetryPolicy} {counted : Bool}
    {operation : Activity σ (Except StoreError α)} (h : operation.Leaves Event.Quiet) :
    (p.execute counted operation).Leaves Event.Quiet :=
  leaves_execute h (fun _ _ _ _ => trivial) (fun _ _ => trivial) rfl fun _ => trivial

end Activity

end TwinCatalogue
