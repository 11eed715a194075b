import Mathlib.Order.Bounds.Basic
import TwinCatalogue.Retry.Run

/-! The attempts of a retried operation, laid out as if they went on for ever. A run under a
policy is their beginning, up to the first attempt that stops it. -/

namespace TwinCatalogue.RetryPolicy

variable {σ α : Type}

/-- Whether a policy stops at attempt number `n`, given what it replied. -/
def Stops (p : RetryPolicy) (n : Nat) : Except StoreError α → Prop
  | .ok _ => True
  | .error e => p.abortOn e = true ∨ p.retryOn e = false ∨ n = max 1 p.maxAttempts.toNat

/-- How a run ends that stops at attempt number `n`. -/
def outcome (p : RetryPolicy) (n : Nat) : Except StoreError α → RetryOutcome α
  | .ok value => .success value
  | .error e => if p.abortOn e then .aborted e n else .exhausted e n

def pauseEvents (p : RetryPolicy) (counted : Bool) (n milliseconds : Nat) :
    Except StoreError α → List Event
  | .ok _ => []
  | .error e =>
    .logged (.retrying n (max 1 p.maxAttempts.toNat) milliseconds e) ::
      ((if counted then [.counted .retries] else []) ++ [.waited milliseconds])

def partingEvents (p : RetryPolicy) (n : Nat) : Except StoreError α → List Event
  | .ok _ => []
  | .error e => if p.abortOn e then [.logged (.notRetrying n e)] else []

/-- The state of the world when `n` attempts have been made and the delay after the last of
them has been drawn. -/
def stateAfter (p : RetryPolicy) (operation : Activity σ (Except StoreError α)) (w : World σ)
    (s : σ) : Nat → σ
  | 0 => s
  | n + 1 => ((p.delay n).run w (operation.run w (stateAfter p operation w s n)).after).after

def attempt (p : RetryPolicy) (operation : Activity σ (Except StoreError α)) (w : World σ)
    (s : σ) (n : Nat) : Episode σ (Except StoreError α) :=
  operation.run w (p.stateAfter operation w s n)

def delayAfter (p : RetryPolicy) (operation : Activity σ (Except StoreError α)) (w : World σ)
    (s : σ) (n : Nat) : Nat :=
  ((p.delay n).run w (p.attempt operation w s n).after).result

def round (p : RetryPolicy) (counted : Bool) (operation : Activity σ (Except StoreError α))
    (w : World σ) (s : σ) (n : Nat) : List Event :=
  (p.attempt operation w s n).events ++
    p.pauseEvents counted (n + 1) (p.delayAfter operation w s n) (p.attempt operation w s n).result

def lastRound (p : RetryPolicy) (operation : Activity σ (Except StoreError α))
    (w : World σ) (s : σ) (n : Nat) : List Event :=
  (p.attempt operation w s n).events ++
    p.partingEvents (n + 1) (p.attempt operation w s n).result

theorem attemptLimit_pos (p : RetryPolicy) : 1 ≤ p.attemptLimit := Nat.le_max_left _ _

theorem attemptLimit_lt (p : RetryPolicy) : p.attemptLimit < UInt32.size := by
  have h := p.maxAttempts.toNat_lt
  simp only [attemptLimit, UInt32.size] at h ⊢
  omega

@[simp] theorem delay_events (p : RetryPolicy) (retry : Nat) (w : World σ) (s : σ) :
    ((p.delay retry).run w s).events = [] := by
  unfold delay
  split <;> rfl

theorem delay_after (p : RetryPolicy) (retry : Nat) (w : World σ) (s : σ) :
    ((p.delay retry).run w s).after = s ∨ ((p.delay retry).run w s).after = (w.draw s).2 := by
  unfold delay
  split
  · exact Or.inr rfl
  · exact Or.inl rfl

theorem delay_of_not_jitter {p : RetryPolicy} (h : p.jitter = false) (retry : Nat) (w : World σ)
    (s : σ) : (p.delay retry).run w s = ⟨p.backoff retry, [], s⟩ := by
  simp [delay, jitters, h]

theorem pauseFor_run (p : RetryPolicy) (counted : Bool) (n milliseconds : Nat) (e : StoreError)
    (w : World σ) (s : σ) :
    (p.pauseFor counted n e milliseconds).run w s =
      ⟨(), p.pauseEvents counted n milliseconds (.error e : Except StoreError α), s⟩ := by
  cases counted <;> rfl

/-- One attempt, and the rest of the run as it depends on what the attempt replied. -/
theorem attempts_step (p : RetryPolicy) (counted : Bool)
    (operation : Activity σ (Except StoreError α)) (w : World σ) (left n : Nat) (s : σ) :
    (p.attempts counted operation left n).run w s =
      match (operation.run w s).result, left with
      | .ok value, _ => ⟨.success value, (operation.run w s).events, (operation.run w s).after⟩
      | .error e, 0 =>
        ⟨p.outcome n (.error e),
          (operation.run w s).events ++ p.partingEvents n (.error e : Except StoreError α),
          (operation.run w s).after⟩
      | .error e, left + 1 =>
        if p.abortOn e = false ∧ p.retryOn e = true then
          let pause := (p.delay (n - 1)).run w (operation.run w s).after
          let rest := (p.attempts counted operation left (n + 1)).run w pause.after
          ⟨rest.result,
            (operation.run w s).events ++
              (p.pauseEvents counted n pause.result (.error e : Except StoreError α) ++ rest.events),
            rest.after⟩
        else
          ⟨p.outcome n (.error e),
            (operation.run w s).events ++ p.partingEvents n (.error e : Except StoreError α),
            (operation.run w s).after⟩ := by
  rw [attempts]
  cases hr : (operation.run w s).result with
  | ok value => cases left <;> simp only [Activity.run_bind, hr, Activity.run_pure, List.append_nil]
  | error e =>
    cases ha : p.abortOn e with
    | true =>
      cases left <;> simp [Activity.run_bind, hr, ha, outcome, partingEvents, Activity.log]
    | false =>
      cases left with
      | zero => simp [Activity.run_bind, hr, ha, outcome, partingEvents]
      | succ left =>
        cases hb : p.retryOn e with
        | true => simp [Activity.run_bind, hr, ha, hb, pauseFor_run (α := α)]
        | false => simp [Activity.run_bind, hr, ha, hb, outcome, partingEvents]

theorem not_stops_iff {p : RetryPolicy} {n : Nat} {e : StoreError} :
    ¬ p.Stops n (.error e : Except StoreError α) ↔
      p.abortOn e = false ∧ p.retryOn e = true ∧ n ≠ p.attemptLimit := by
  simp [Stops, attemptLimit, not_or]

theorem eq_error_of_not_stops {p : RetryPolicy} {n : Nat} {reply : Except StoreError α}
    (h : ¬ p.Stops n reply) : ∃ e, reply = .error e := by
  cases reply with
  | ok value => exact absurd trivial h
  | error e => exact ⟨e, rfl⟩

theorem attempts_stop {p : RetryPolicy} {operation : Activity σ (Except StoreError α)}
    {w : World σ} {s : σ} {left n : Nat} (hl : n + left + 1 = p.attemptLimit)
    (hs : p.Stops (n + 1) (p.attempt operation w s n).result) (counted : Bool) :
    (p.attempts counted operation left (n + 1)).run w (p.stateAfter operation w s n) =
      ⟨p.outcome (n + 1) (p.attempt operation w s n).result, p.lastRound operation w s n,
        (p.attempt operation w s n).after⟩ := by
  have ha : operation.run w (p.stateAfter operation w s n) = p.attempt operation w s n := rfl
  rw [attempts_step, ha]
  cases hr : (p.attempt operation w s n).result with
  | ok value => simp [lastRound, hr, outcome, partingEvents]
  | error e =>
    cases left with
    | zero => simp [lastRound, hr]
    | succ left =>
      have hn : ¬ (p.abortOn e = false ∧ p.retryOn e = true) := by
        rintro ⟨h₁, h₂⟩
        rw [hr] at hs
        exact not_stops_iff.mpr ⟨h₁, h₂, by omega⟩ hs
      simp [lastRound, hr, hn]

theorem attempts_go_on {p : RetryPolicy} {operation : Activity σ (Except StoreError α)}
    {w : World σ} {s : σ} {left n : Nat} {counted : Bool} {rest : Episode σ (RetryOutcome α)}
    (hs : ¬ p.Stops (n + 1) (p.attempt operation w s n).result)
    (hrest : (p.attempts counted operation left (n + 1 + 1)).run w
      (p.stateAfter operation w s (n + 1)) = rest) :
    (p.attempts counted operation (left + 1) (n + 1)).run w (p.stateAfter operation w s n) =
      ⟨rest.result, p.round counted operation w s n ++ rest.events, rest.after⟩ := by
  obtain ⟨e, he⟩ := eq_error_of_not_stops hs
  have ha : operation.run w (p.stateAfter operation w s n) = p.attempt operation w s n := rfl
  rw [he, not_stops_iff] at hs
  rw [attempts_step, ha, he]
  simp only [hs.1, hs.2.1, and_self, if_true, round, he, List.append_assoc, ← hrest]
  rfl

/-- A run that has made `n` attempts. The induction is on the attempts left, which with those
made always add up to the limit. -/
theorem attempts_run (p : RetryPolicy) (counted : Bool)
    (operation : Activity σ (Except StoreError α)) (w : World σ) (s : σ) (left n : Nat)
    (hl : n + left + 1 = p.attemptLimit) :
    ∃ m, n + m < p.attemptLimit ∧
      (∀ j, n ≤ j → j < n + m → ¬ p.Stops (j + 1) (p.attempt operation w s j).result) ∧
      p.Stops (n + m + 1) (p.attempt operation w s (n + m)).result ∧
      (p.attempts counted operation left (n + 1)).run w (p.stateAfter operation w s n) =
        ⟨p.outcome (n + m + 1) (p.attempt operation w s (n + m)).result,
          (List.range' n m).flatMap (p.round counted operation w s) ++
            p.lastRound operation w s (n + m),
          (p.attempt operation w s (n + m)).after⟩ := by
  induction left generalizing n with
  | zero =>
    have hs : p.Stops (n + 1) (p.attempt operation w s n).result := by
      by_contra h
      obtain ⟨e, he⟩ := eq_error_of_not_stops h
      rw [he, not_stops_iff] at h
      omega
    exact ⟨0, by omega, fun j h h' => by omega, hs, attempts_stop (by omega) hs counted⟩
  | succ left ih =>
    by_cases hs : p.Stops (n + 1) (p.attempt operation w s n).result
    · exact ⟨0, by omega, fun j h h' => by omega, hs, attempts_stop (by omega) hs counted⟩
    · obtain ⟨m, hm, hbefore, hstop, hrun⟩ := ih (n + 1) (by omega)
      rw [show n + 1 + m = n + (m + 1) by omega] at hm hbefore hstop hrun
      refine ⟨m + 1, hm, ?_, hstop, ?_⟩
      · intro j hj hjm
        rcases Nat.eq_or_lt_of_le hj with rfl | h
        · exact hs
        · exact hbefore j h hjm
      · rw [attempts_go_on hs hrun, List.range'_succ, List.flatMap_cons, List.append_assoc]

/-- A run is made of the attempts up to the first one that stops the policy. -/
theorem execute_run (p : RetryPolicy) (counted : Bool)
    (operation : Activity σ (Except StoreError α)) (w : World σ) (s : σ) :
    ∃ m, m < p.attemptLimit ∧
      IsLeast {j | p.Stops (j + 1) (p.attempt operation w s j).result} m ∧
      (p.execute counted operation).run w s =
        ⟨p.outcome (m + 1) (p.attempt operation w s m).result,
          (List.range m).flatMap (p.round counted operation w s) ++ p.lastRound operation w s m,
          (p.attempt operation w s m).after⟩ := by
  have hl : 0 + (p.attemptLimit - 1) + 1 = p.attemptLimit := by
    have := p.attemptLimit_pos
    omega
  obtain ⟨m, hm, hbefore, hstop, hrun⟩ := p.attempts_run counted operation w s _ 0 hl
  simp only [Nat.zero_add, ← List.range_eq_range'] at hm hbefore hstop hrun
  refine ⟨m, hm, ⟨hstop, ?_⟩, hrun⟩
  intro j hj
  by_contra h
  exact hbefore j (Nat.zero_le j) (by omega) hj

theorem isLeast_from_one {P : Nat → Prop} {m : Nat} (hm : IsLeast {j | P (j + 1)} m) :
    IsLeast {j | 1 ≤ j ∧ P j} (m + 1) := by
  refine ⟨⟨by omega, hm.1⟩, ?_⟩
  rintro j ⟨hj, hs⟩
  have := hm.2 (show P (j - 1 + 1) by rwa [Nat.sub_add_cancel hj])
  omega

theorem map_from_one {β : Type} (f : Nat → β) (n : Nat) :
    (List.range' 1 n).map (fun j => f (j - 1)) = (List.range n).map f := by
  rw [List.range'_eq_map_range, List.map_map]
  refine List.map_congr_left fun j _ => ?_
  rw [Function.comp_apply, Nat.add_sub_cancel_left]

@[simp] theorem toExcept_outcome (p : RetryPolicy) (n : Nat) (reply : Except StoreError α) :
    (p.outcome n reply).toExcept = reply := by
  cases reply with
  | ok value => rfl
  | error e => cases h : p.abortOn e <;> simp [outcome, h, RetryOutcome.toExcept]

/-- What the attempts made so far and the draws of random bits preserve holds before the next
attempt. -/
theorem stateAfter_invariant {p : RetryPolicy} {operation : Activity σ (Except StoreError α)}
    {w : World σ} {s : σ} {I : σ → Prop} (hs : I s) (hdraw : ∀ t, I t → I (w.draw t).2) (n : Nat)
    (hattempt : ∀ j < n, I (p.stateAfter operation w s j) → I (p.attempt operation w s j).after) :
    I (p.stateAfter operation w s n) := by
  induction n with
  | zero => exact hs
  | succ n ih =>
    have hi := hattempt n (by omega) (ih fun j hj => hattempt j (by omega))
    rcases p.delay_after n w (p.attempt operation w s n).after with h | h
    · rw [stateAfter, ← attempt, h]
      exact hi
    · rw [stateAfter, ← attempt, h]
      exact hdraw _ hi

/-- A run ends like a single attempt from a state in which the invariant holds. -/
theorem execute_invariant (p : RetryPolicy) (counted : Bool)
    {operation : Activity σ (Except StoreError α)} {w : World σ} {s : σ} {I : σ → Prop} (hs : I s)
    (hdraw : ∀ t, I t → I (w.draw t).2)
    (hfail : ∀ t e, I t → (operation.run w t).result = .error e → I (operation.run w t).after) :
    ∃ t, I t ∧
      ((p.execute counted operation).run w s).result.toExcept = (operation.run w t).result ∧
      ((p.execute counted operation).run w s).after = (operation.run w t).after := by
  obtain ⟨m, -, ⟨-, hleast⟩, hrun⟩ := p.execute_run counted operation w s
  refine ⟨p.stateAfter operation w s m, stateAfter_invariant hs hdraw m ?_, ?_, ?_⟩
  · intro j hj hi
    obtain ⟨e, he⟩ := eq_error_of_not_stops (p := p) (n := j + 1)
      (fun hstop => absurd (hleast hstop) (by omega))
    exact hfail _ e hi he
  · rw [hrun, toExcept_outcome]
    rfl
  · rw [hrun]
    rfl

end TwinCatalogue.RetryPolicy
