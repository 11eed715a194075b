import TwinCatalogue.Proofs.Events
import TwinCatalogue.Proofs.Retry.Attempts
import TwinCatalogue.Script

/-! What a run without jitter amounts to: the operation is repeated with nothing but steady delays
in between, up to the first attempt that stops the policy. -/

namespace TwinCatalogue

variable {σ α : Type}

/-- The episodes of an activity that is run again and again. -/
def Activity.repeated (x : Activity σ α) (w : World σ) (s : σ) : Nat → Episode σ α
  | 0 => x.run w s
  | n + 1 => x.run w (repeated x w s n).after

namespace RetryPolicy

/-- The episode `e` repeats an operation up to attempt number `k`. Attempts are counted from one,
repetitions from zero. -/
structure StopsAfter (p : RetryPolicy) (counted : Bool)
    (operation : Activity σ (Except StoreError α)) (w : World σ) (s : σ)
    (e : Episode σ (RetryOutcome α)) (k : Nat) : Prop where
  /-- No earlier attempt stops the policy. -/
  least : IsLeast {j | 1 ≤ j ∧ p.Stops j (operation.repeated w s (j - 1)).result} k
  /-- A cap of no attempts still allows one. -/
  within : k ≤ max 1 p.maxAttempts.toNat
  /-- A counter of 32 bits holds the numbers of all attempts. -/
  noWrap : k < UInt32.size
  result : e.result = p.outcome k (operation.repeated w s (k - 1)).result
  after : e.after = (operation.repeated w s (k - 1)).after
  /-- Each attempt starts when those before it and the delays behind them have passed. -/
  timed : Event.timed 0 e.events =
    let start := fun n => ∑ j ∈ Finset.range n,
      (Event.duration (operation.repeated w s j).events + p.backoff j)
    ((List.range (k - 1)).flatMap fun j =>
      Event.timed (start j) ((operation.repeated w s j).events ++
        p.pauseEvents counted (j + 1) (p.backoff j) (operation.repeated w s j).result)) ++
    Event.timed (start (k - 1)) ((operation.repeated w s (k - 1)).events ++
      p.partingEvents k (operation.repeated w s (k - 1)).result)
  /-- Beyond what the operation counts itself, every attempt but the last counts one retry. -/
  retries : Event.tally .retries e.events =
    (∑ j ∈ Finset.range k, Event.tally .retries (operation.repeated w s j).events) +
      if counted then k - 1 else 0
  records : (Event.retryDelays e.events).length =
    (∑ j ∈ Finset.range k, (Event.retryDelays (operation.repeated w s j).events).length) + (k - 1)
  delays : (Event.retryDelays e.events).sum =
    (∑ j ∈ Finset.range k, (Event.retryDelays (operation.repeated w s j).events).sum) +
      ∑ j ∈ Finset.range (k - 1), p.backoff j
  elapsed : Event.duration e.events =
    (∑ j ∈ Finset.range k, Event.duration (operation.repeated w s j).events) +
      ∑ j ∈ Finset.range (k - 1), p.backoff j

theorem attempt_of_not_jitter {p : RetryPolicy} (hj : p.jitter = false)
    (operation : Activity σ (Except StoreError α)) (w : World σ) (s : σ) (n : Nat) :
    p.attempt operation w s n = operation.repeated w s n := by
  induction n with
  | zero => rfl
  | succ n ih =>
    rw [attempt, stateAfter, delay_of_not_jitter hj]
    change operation.run w (p.attempt operation w s n).after = _
    rw [ih]
    rfl

theorem delayAfter_of_not_jitter {p : RetryPolicy} (hj : p.jitter = false)
    (operation : Activity σ (Except StoreError α)) (w : World σ) (s : σ) (n : Nat) :
    p.delayAfter operation w s n = p.backoff n := by
  rw [delayAfter, delay_of_not_jitter hj]

theorem duration_partingEvents (p : RetryPolicy) (n : Nat) (reply : Except StoreError α) :
    Event.duration (p.partingEvents n reply) = 0 := by
  cases reply with
  | ok value => rfl
  | error e => cases h : p.abortOn e <;> simp [partingEvents, h, Event.duration]

theorem tally_partingEvents (p : RetryPolicy) (n : Nat) (reply : Except StoreError α)
    (counter : Counter) : Event.tally counter (p.partingEvents n reply) = 0 := by
  cases reply with
  | ok value => rfl
  | error e => cases h : p.abortOn e <;> simp [partingEvents, h, Event.tally, Event.raises]

theorem retryDelays_partingEvents (p : RetryPolicy) (n : Nat) (reply : Except StoreError α) :
    Event.retryDelays (p.partingEvents n reply) = [] := by
  cases reply with
  | ok value => rfl
  | error e =>
    cases h : p.abortOn e <;>
      simp [partingEvents, h, Event.retryDelays, Event.logs, LogEntry.retryDelay?]

theorem duration_pauseEvents (p : RetryPolicy) (counted : Bool) (n milliseconds : Nat)
    (e : StoreError) : Event.duration
      (p.pauseEvents counted n milliseconds (.error e : Except StoreError α)) = milliseconds := by
  cases counted <;> simp [pauseEvents, Event.duration]

theorem tally_pauseEvents (p : RetryPolicy) (counted : Bool) (n milliseconds : Nat)
    (e : StoreError) (counter : Counter) : Event.tally counter
      (p.pauseEvents counted n milliseconds (.error e : Except StoreError α)) =
        if counted = true ∧ counter = .retries then 1 else 0 := by
  cases counted <;> cases counter <;> simp [pauseEvents, Event.tally, Event.raises]

theorem retryDelays_pauseEvents (p : RetryPolicy) (counted : Bool) (n milliseconds : Nat)
    (e : StoreError) : Event.retryDelays
      (p.pauseEvents counted n milliseconds (.error e : Except StoreError α)) = [milliseconds] := by
  cases counted <;>
    simp [pauseEvents, Event.retryDelays, Event.logs, LogEntry.retryDelay?]

theorem add_round {p : RetryPolicy} {counted : Bool} {operation : Activity σ (Except StoreError α)}
    {w : World σ} {s : σ} {m : Nat} {f : List Event → Nat} {g : Nat → Nat}
    (hf : ∀ first second, f (first ++ second) = f first + f second)
    (hm : IsLeast {j | p.Stops (j + 1) (p.attempt operation w s j).result} m)
    (hpause : ∀ j e, f (p.pauseEvents counted (j + 1) (p.delayAfter operation w s j)
      (.error e : Except StoreError α)) = g j) (j : Nat) (hj : j < m) :
    f (p.round counted operation w s j) = f (p.attempt operation w s j).events + g j := by
  have hgo : ¬ p.Stops (j + 1) (p.attempt operation w s j).result :=
    fun h => absurd (hm.2 h) (by omega)
  obtain ⟨e, he⟩ := eq_error_of_not_stops hgo
  rw [round, hf, he, hpause]

/-- A number that adds up over events, taken of a whole run: what the attempts contribute, and
what the pauses between them do. -/
theorem sum_run {p : RetryPolicy} (counted : Bool) {operation : Activity σ (Except StoreError α)}
    {w : World σ} {s : σ} {m : Nat} {f : List Event → Nat} {g : Nat → Nat}
    (hf : ∀ first second, f (first ++ second) = f first + f second)
    (hm : IsLeast {j | p.Stops (j + 1) (p.attempt operation w s j).result} m)
    (hpause : ∀ j e, f (p.pauseEvents counted (j + 1) (p.delayAfter operation w s j)
      (.error e : Except StoreError α)) = g j)
    (hparting : f (p.partingEvents (m + 1) (p.attempt operation w s m).result) = 0) :
    f ((List.range m).flatMap (p.round counted operation w s) ++ p.lastRound operation w s m) =
      (∑ j ∈ Finset.range (m + 1), f (p.attempt operation w s j).events) +
        ∑ j ∈ Finset.range m, g j := by
  have hround : ∀ j ∈ Finset.range m, f (p.round counted operation w s j) =
      f (p.attempt operation w s j).events + g j :=
    fun j hj => add_round hf hm hpause j (Finset.mem_range.mp hj)
  rw [hf, Event.sum_blocks hf, Finset.sum_congr rfl hround, Finset.sum_add_distrib, lastRound, hf,
    hparting, Finset.sum_range_succ]
  omega

theorem timed_run {p : RetryPolicy} (counted : Bool) {operation : Activity σ (Except StoreError α)}
    {w : World σ} {s : σ} {m : Nat}
    (hm : IsLeast {j | p.Stops (j + 1) (p.attempt operation w s j).result} m) :
    let start := fun n => ∑ j ∈ Finset.range n,
      (Event.duration (p.attempt operation w s j).events + p.delayAfter operation w s j)
    Event.timed 0
        ((List.range m).flatMap (p.round counted operation w s) ++ p.lastRound operation w s m) =
      ((List.range m).flatMap fun j => Event.timed (start j) (p.round counted operation w s j)) ++
        Event.timed (start m) (p.lastRound operation w s m) := by
  intro start
  have hstart : ∀ n ≤ m,
      ∑ j ∈ Finset.range n, Event.duration (p.round counted operation w s j) = start n := by
    intro n hn
    refine Finset.sum_congr rfl fun j hj => ?_
    exact add_round Event.duration_append hm (fun j e => p.duration_pauseEvents counted _ _ e) j
      (by have := Finset.mem_range.mp hj; omega)
  rw [Event.timed_append, Event.timed_blocks, Event.sum_blocks Event.duration_append, hstart m le_rfl,
    Nat.zero_add]
  congr 1
  refine List.flatMap_congr fun j hj => ?_
  rw [hstart j (List.mem_range.mp hj).le]

/-- A run without jitter repeats the operation up to the first attempt that stops the policy. -/
theorem execute_without_jitter {p : RetryPolicy} (hj : p.jitter = false) (counted : Bool)
    (operation : Activity σ (Except StoreError α)) (w : World σ) (s : σ) :
    ∃ k, p.StopsAfter counted operation w s ((p.execute counted operation).run w s) k := by
  obtain ⟨m, hlimit, hm, hrun⟩ := p.execute_run counted operation w s
  have ha : p.attempt operation w s = operation.repeated w s :=
    funext fun n => attempt_of_not_jitter hj operation w s n
  have hd : p.delayAfter operation w s = p.backoff :=
    funext fun n => delayAfter_of_not_jitter hj operation w s n
  have htimed := timed_run counted hm
  have hretries := sum_run counted (Event.tally_append .retries) hm
    (fun j e => p.tally_pauseEvents counted _ _ e _) (p.tally_partingEvents _ _ _)
  have hrecords := sum_run (f := fun events => (Event.retryDelays events).length) counted
    (by simp) hm (fun j e => by rw [retryDelays_pauseEvents]) (by rw [retryDelays_partingEvents]; rfl)
  have hdelays := sum_run (f := fun events => (Event.retryDelays events).sum) counted
    (by simp) hm (fun j e => by rw [retryDelays_pauseEvents]) (by rw [retryDelays_partingEvents]; rfl)
  have helapsed := sum_run counted Event.duration_append hm
    (fun j e => p.duration_pauseEvents counted _ _ e) (p.duration_partingEvents _ _)
  rw [ha] at hm
  simp only [round, lastRound, ha, hd] at htimed hretries hrecords hdelays helapsed hrun
  rw [hrun]
  refine ⟨m + 1, isLeast_from_one hm, hlimit, ?_, rfl, rfl, htimed, ?_, ?_, ?_, helapsed⟩
  · exact Nat.lt_of_le_of_lt hlimit p.attemptLimit_lt
  · rw [hretries]
    cases counted <;> simp
  · rw [hrecords]
    simp
  · rw [hdelays]
    simp only [List.sum_singleton, Nat.add_sub_cancel]

/-- Two failures that are worth a retry, and a success: the third attempt is the last one. -/
theorem execute_without_jitter_third :
    let p : RetryPolicy := { standard with jitter := false }
    let operation : Activity Script Reply :=
      Activity.call (.store .centralSide (.get .item "i1") ⟨"admin"⟩)
    let script := Script.empty.addCalls (.get .centralSide)
      [.error (.status 500 "down"), .error (.timeout "central")] none
    p.jitter = false ∧
      p.StopsAfter true operation Script.world script
        ((p.execute true operation).run Script.world script) 3 := by
  intro p operation script
  obtain ⟨k, h⟩ := execute_without_jitter (p := p) rfl true operation Script.world script
  have hthird : IsLeast {j | 1 ≤ j ∧
      p.Stops j (operation.repeated Script.world script (j - 1)).result} 3 := by
    refine ⟨⟨by omega, trivial⟩, ?_⟩
    rintro j ⟨hj, hs⟩
    by_contra hlt
    obtain rfl | rfl : j = 1 ∨ j = 2 := by omega
    · exact absurd hs (not_stops_iff.mpr ⟨rfl, rfl, by decide⟩)
    · exact absurd hs (not_stops_iff.mpr ⟨rfl, rfl, by decide⟩)
  exact ⟨rfl, h.least.unique hthird ▸ h⟩

end RetryPolicy

end TwinCatalogue
