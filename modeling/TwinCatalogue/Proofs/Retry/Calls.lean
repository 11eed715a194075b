import TwinCatalogue.Proofs.Activity.Leaves
import TwinCatalogue.Proofs.Retry.Reference

/-! A single remote call under a retry policy: what it asks, what it hands over and what it
counts. -/

namespace TwinCatalogue.RetryPolicy

variable {σ : Type}

def replyTo (p : RetryPolicy) (call : Call) (w : World σ) (s : σ) (n : Nat) : Reply :=
  (p.attempt (Activity.call call) w s n).result

theorem attempt_call_events (p : RetryPolicy) (call : Call) (w : World σ) (s : σ) (n : Nat) :
    (p.attempt (Activity.call call) w s n).events = [.called call (p.replyTo call w s n)] := rfl

theorem filter_isCall_pauseEvents (p : RetryPolicy) (counted : Bool) (n milliseconds : Nat)
    (reply : Reply) : (p.pauseEvents counted n milliseconds reply).filter Event.isCall = [] := by
  cases reply with
  | ok doc => rfl
  | error e => cases counted <;> rfl

theorem filter_isCall_partingEvents (p : RetryPolicy) (n : Nat) (reply : Reply) :
    (p.partingEvents n reply).filter Event.isCall = [] := by
  cases reply with
  | ok doc => rfl
  | error e => cases h : p.abortOn e <;> simp [partingEvents, h, Event.isCall]

/-- The calls of a run are those of its attempts. -/
theorem filter_isCall_run (p : RetryPolicy) (counted : Bool) (operation : Activity σ Reply)
    (w : World σ) (s : σ) (m : Nat) :
    ((List.range m).flatMap (p.round counted operation w s) ++
      p.lastRound operation w s m).filter Event.isCall =
        (List.range (m + 1)).flatMap
          fun j => (p.attempt operation w s j).events.filter Event.isCall := by
  have hround : ∀ j, (p.round counted operation w s j).filter Event.isCall =
      (p.attempt operation w s j).events.filter Event.isCall := by
    intro j
    rw [round, List.filter_append, filter_isCall_pauseEvents, List.append_nil]
  have hlast : (p.lastRound operation w s m).filter Event.isCall =
      (p.attempt operation w s m).events.filter Event.isCall := by
    rw [lastRound, List.filter_append, filter_isCall_partingEvents, List.append_nil]
  rw [List.filter_append, List.filter_flatMap, hlast, List.range_succ, List.flatMap_append]
  simp only [hround, List.flatMap_cons, List.flatMap_nil, List.append_nil]

/-- A retried call is asked again and again until a reply stops the policy; nothing else is asked,
no repair is handed over, and only retries are counted. -/
theorem retrying_call (p : RetryPolicy) (call : Call) (w : World σ) (s : σ) :
    ∃ m, IsLeast {j | p.Stops (j + 1) (p.replyTo call w s j)} m ∧
      let e := (p.retrying (Activity.call call)).run w s
      e.result = p.outcome (m + 1) (p.replyTo call w s m) ∧
      e.events.filter Event.isCall =
        (List.range (m + 1)).map (fun j => .called call (p.replyTo call w s j)) ∧
      Event.tasks e.events = [] ∧
      ∀ c, Event.counters c e.events = { c with retries := c.retries + m } := by
  obtain ⟨m, -, hm, hrun⟩ := p.execute_run true (Activity.call call) w s
  refine ⟨m, hm, ?_⟩
  intro e
  have he : e = _ := hrun
  rw [he]
  refine ⟨rfl, ?_, ?_, ?_⟩
  · rw [filter_isCall_run]
    exact List.map_eq_flatMap.symm
  · rw [← hrun]
    exact Event.tasks_of_quiet (Activity.quiet_execute (Activity.quiet_call call) w s)
  · intro c
    have htally : ∀ counter, Event.tally counter
        ((List.range m).flatMap (p.round true (Activity.call call) w s) ++
          p.lastRound (Activity.call call) w s m) = if counter = .retries then m else 0 := by
      intro counter
      rw [sum_run true (Event.tally_append counter) hm
        (fun j e => p.tally_pauseEvents true _ _ e _) (p.tally_partingEvents _ _ _)]
      have hquiet : ∀ j, Event.tally counter (p.attempt (Activity.call call) w s j).events = 0 :=
        fun j => rfl
      simp only [hquiet, Finset.sum_const_zero]
      cases counter <;> simp
    simp [Event.counters_eq, htally]

end TwinCatalogue.RetryPolicy
