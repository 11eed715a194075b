import Mathlib.Algebra.Order.BigOperators.Group.Finset
import TwinCatalogue.Proofs.Activity.Course
import TwinCatalogue.Proofs.Retry.Calls

/-! The effort of an activity: what it asks directly, how many executions of the retry policy it
runs, and how much an attempt of them can ask. All else that it leaves are records and counts. -/

namespace TwinCatalogue

namespace Activity

/-- An operation that leaves nothing but calls, and at most `load` of them. -/
def Asks {σ α : Type} (x : Activity σ α) (load : Nat) : Prop :=
  ∀ w s, (∀ e ∈ (x.run w s).events, e.isCall = true) ∧ (x.run w s).events.length ≤ load

theorem asks_call {σ : Type} (call : Call) : (Activity.call call : Activity σ Reply).Asks 1 :=
  fun _ _ => ⟨fun _ he => List.mem_singleton.mp he ▸ rfl, Nat.le_refl 1⟩

end Activity

/-- Work from one state of the world to another, for which at most `asked` direct calls and
`executions` of the policy are needed, of which an attempt of each makes at most `load` calls all
together. Only calls that are `direct` can be made outside of an execution. -/
inductive Works {σ : Type} (p : RetryPolicy) (w : World σ) (direct : Event → Prop) :
    (asked executions load : Nat) → σ → List Event → σ → Prop
  | done {asked executions load : Nat} (s : σ) : Works p w direct asked executions load s [] s
  | called {asked executions load : Nat} {s t : σ} {events : List Event} (call : Call)
      (hdirect : direct (.called call (w.answer call s).1))
      (h : Works p w direct asked executions load (w.answer call s).2 events t) :
      Works p w direct (asked + 1) executions load s (.called call (w.answer call s).1 :: events) t
  | minted {asked executions load : Nat} {s t : σ} {events : List Event}
      (hdirect : direct (.minted (w.mint s).1))
      (h : Works p w direct asked executions load (w.mint s).2 events t) :
      Works p w direct (asked + 1) executions load s (.minted (w.mint s).1 :: events) t
  | noted {asked executions load : Nat} {s t : σ} {events : List Event} {e : Event}
      (hcall : e.isCall = false) (hpause : e.isPause = false)
      (h : Works p w direct asked executions load s events t) :
      Works p w direct asked executions load s (e :: events) t
  | executed {asked executions load more : Nat} {s t : σ} {events : List Event}
      {operation : Activity σ Reply} (hasks : operation.Asks more)
      (h : Works p w direct asked executions load ((p.retrying operation).run w s).after events t) :
      Works p w direct asked (executions + 1) (load + more) s
        (((p.retrying operation).run w s).events ++ events) t

namespace Event

def calls (events : List Event) : Nat := (events.filter isCall).length

@[simp] theorem calls_append (first second : List Event) :
    calls (first ++ second) = calls first + calls second := by
  simp [calls]

theorem tally_of_isCall {events : List Event} (h : ∀ e ∈ events, e.isCall = true)
    (counter : Counter) : tally counter events = 0 := by
  rw [tally, List.countP_eq_zero]
  intro e he
  cases e with
  | counted c => exact absurd (h _ he) Bool.false_ne_true
  | _ => exact Bool.false_ne_true

theorem duration_of_isCall {events : List Event} (h : ∀ e ∈ events, e.isCall = true) :
    duration events = 0 := by
  induction events with
  | nil => rfl
  | cons e rest ih =>
    have hrest := ih fun e he => h e (List.mem_cons_of_mem _ he)
    cases e with
    | waited milliseconds => exact absurd (h _ List.mem_cons_self) Bool.false_ne_true
    | _ => exact hrest

end Event

namespace RetryPolicy

variable {σ : Type} {p : RetryPolicy} {operation : Activity σ Reply} {w : World σ} {s : σ}

/-- A number that adds up over events, taken of an execution in which each attempt contributes at
most `most`, and the pause behind attempt `j` contributes `g j`. -/
theorem sum_retrying_le {f : List Event → Nat} (most : Nat) (g : Nat → Nat)
    (hf : ∀ first second, f (first ++ second) = f first + f second)
    (hattempt : ∀ s, f (operation.run w s).events ≤ most)
    (hpause : ∀ j e, f (p.pauseEvents true (j + 1) (p.delayAfter operation w s j)
      (.error e : Reply)) = g j)
    (hparting : ∀ n reply, f (p.partingEvents n (reply : Reply)) = 0) :
    ∃ m < p.attemptLimit, f ((p.retrying operation).run w s).events ≤
      (m + 1) * most + ∑ j ∈ Finset.range m, g j := by
  obtain ⟨m, hlimit, hm, hrun⟩ := p.execute_run true operation w s
  have hattempts : ∑ j ∈ Finset.range (m + 1), f (p.attempt operation w s j).events ≤
      (m + 1) * most := by
    have h := Finset.sum_le_card_nsmul (Finset.range (m + 1))
      (fun j => f (p.attempt operation w s j).events) most fun j _ => hattempt _
    simpa using h
  refine ⟨m, hlimit, ?_⟩
  rw [retrying, hrun, sum_run true hf hm hpause (hparting _ _)]
  exact Nat.add_le_add_right hattempts _

theorem calls_retrying_le {load : Nat} (h : operation.Asks load) (w : World σ) (s : σ) :
    Event.calls ((p.retrying operation).run w s).events ≤ load * p.attemptLimit := by
  obtain ⟨m, hlimit, hle⟩ := sum_retrying_le (p := p) (s := s) load (fun _ => 0)
    Event.calls_append (fun s => (List.length_filter_le _ _).trans (h w s).2)
    (fun j e => congrArg List.length (p.filter_isCall_pauseEvents true _ _ _))
    (fun n reply => congrArg List.length (p.filter_isCall_partingEvents n reply))
  calc Event.calls ((p.retrying operation).run w s).events
      ≤ (m + 1) * load + ∑ j ∈ Finset.range m, 0 := hle
    _ = load * (m + 1) := by rw [Finset.sum_const_zero, Nat.add_zero, Nat.mul_comm]
    _ ≤ load * p.attemptLimit := Nat.mul_le_mul_left _ hlimit

theorem retries_retrying_le {load : Nat} (h : operation.Asks load) (w : World σ) (s : σ) :
    Event.tally .retries ((p.retrying operation).run w s).events ≤ p.attemptLimit - 1 := by
  obtain ⟨m, hlimit, hle⟩ := sum_retrying_le (p := p) (s := s) 0 (fun _ => 1)
    (Event.tally_append .retries) (fun s => (Event.tally_of_isCall (h w s).1 _).le)
    (fun j e => p.tally_pauseEvents true _ _ e _) (fun n reply => p.tally_partingEvents n reply _)
  rw [Nat.mul_zero, Nat.zero_add, ← Finset.card_eq_sum_ones, Finset.card_range] at hle
  omega

theorem duration_retrying_le {load : Nat} (hj : p.jitter = false) (h : operation.Asks load)
    (w : World σ) (s : σ) :
    Event.duration ((p.retrying operation).run w s).events ≤
      ∑ j ∈ Finset.range (p.attemptLimit - 1), p.backoff j := by
  obtain ⟨m, hlimit, hle⟩ := sum_retrying_le (p := p) (s := s) 0 p.backoff
    Event.duration_append (fun s => (Event.duration_of_isCall (h w s).1).le)
    (fun j e => (p.duration_pauseEvents true _ _ e).trans (delayAfter_of_not_jitter hj ..))
    (fun n reply => p.duration_partingEvents n reply)
  rw [Nat.mul_zero, Nat.zero_add] at hle
  refine hle.trans (Finset.sum_le_sum_of_subset (Finset.range_subset_range.mpr ?_))
  omega

end RetryPolicy

namespace Works

variable {σ : Type} {p : RetryPolicy} {w : World σ} {direct : Event → Prop}
  {asked asked' executions executions' load load' : Nat} {s t u : σ} {first second events : List Event}

theorem pad (h : Works p w direct asked executions load s events t) :
    Works p w direct (asked' + asked) (executions' + executions) (load' + load) s events t := by
  induction h with
  | done s => exact .done s
  | called call hdirect _ ih => exact .called call hdirect ih
  | minted hdirect _ ih => exact .minted hdirect ih
  | noted hcall hpause _ ih => exact .noted hcall hpause ih
  | executed hasks _ ih =>
    rw [← Nat.add_assoc, ← Nat.add_assoc]
    exact .executed hasks ih

theorem mono (h : Works p w direct asked executions load s events t) (hasked : asked ≤ asked')
    (hexecutions : executions ≤ executions') (hload : load ≤ load') :
    Works p w direct asked' executions' load' s events t := by
  obtain ⟨_, rfl⟩ := Nat.exists_eq_add_of_le' hasked
  obtain ⟨_, rfl⟩ := Nat.exists_eq_add_of_le' hexecutions
  obtain ⟨_, rfl⟩ := Nat.exists_eq_add_of_le' hload
  exact h.pad

theorem append (h : Works p w direct asked executions load s first t)
    (h' : Works p w direct asked' executions' load' t second u) :
    Works p w direct (asked' + asked) (executions' + executions) (load' + load) s (first ++ second)
      u := by
  induction h with
  | done s => exact h'.mono (Nat.le_add_right _ _) (Nat.le_add_right _ _) (Nat.le_add_right _ _)
  | called call hdirect _ ih => exact .called call hdirect (ih h')
  | minted hdirect _ ih => exact .minted hdirect (ih h')
  | noted hcall hpause _ ih => exact .noted hcall hpause (ih h')
  | executed hasks _ ih =>
    rw [List.append_assoc, ← Nat.add_assoc, ← Nat.add_assoc]
    exact .executed hasks (ih h')

/-- A number that adds up over events: what the direct calls contribute, and what the executions do,
each as a whole and for every call that one of its attempts can make. -/
theorem sum_le {f : List Event → Nat} (perCall perLoad perExecution : Nat)
    (hf : ∀ first second, f (first ++ second) = f first + f second)
    (hcalled : ∀ e : Event, e.isCall = true → f [e] ≤ perCall)
    (hnoted : ∀ e : Event, e.isCall = false → e.isPause = false → f [e] = 0)
    (hexecuted : ∀ {operation : Activity σ Reply} {more : Nat} (s : σ), operation.Asks more →
      f ((p.retrying operation).run w s).events ≤ more * perLoad + perExecution)
    (h : Works p w direct asked executions load s events t) :
    f events ≤ asked * perCall + load * perLoad + executions * perExecution := by
  induction h with
  | done s =>
    -- A number that adds up is zero for no events.
    have hnil := hf [] []
    rw [List.append_nil] at hnil
    omega
  | @called asked executions load s t events call hdirect _ ih =>
    have hcons : f (.called call (w.answer call s).1 :: events) = _ := hf [_] events
    have hone := hcalled (.called call (w.answer call s).1) rfl
    rw [hcons, Nat.add_mul]
    omega
  | @minted asked executions load s t events hdirect _ ih =>
    have hcons : f (.minted (w.mint s).1 :: events) = _ := hf [_] events
    have hone := hcalled (.minted (w.mint s).1) rfl
    rw [hcons, Nat.add_mul]
    omega
  | @noted asked executions load s t events e hcall hpause _ ih =>
    have hcons : f (e :: events) = _ := hf [e] events
    rw [hcons, hnoted e hcall hpause]
    omega
  | @executed asked executions load more s t events operation hasks _ ih =>
    have hone := hexecuted s hasks
    rw [hf, Nat.add_mul load, Nat.succ_mul]
    omega

theorem calls_le (h : Works p w direct asked executions load s events t) :
    Event.calls events ≤ asked + load * p.attemptLimit := by
  have hsum := h.sum_le 1 p.attemptLimit 0 Event.calls_append
    (fun e _ => List.length_filter_le _ _)
    (fun e hcall _ => by rw [Event.calls, List.filter_cons_of_neg (Bool.eq_false_iff.mp hcall)]; rfl)
    fun s hasks => p.calls_retrying_le hasks w s
  omega

theorem retries_le (h : Works p w direct asked executions load s events t) :
    Event.tally .retries events ≤ executions * (p.attemptLimit - 1) := by
  have hsum := h.sum_le 0 0 (p.attemptLimit - 1) (Event.tally_append .retries)
    (fun e hcall => (Event.tally_of_isCall (List.forall_mem_singleton.mpr hcall) _).le)
    (fun e _ hpause => Event.tally_of_ne fun he => nomatch he ▸ hpause)
    fun s hasks => (p.retries_retrying_le hasks w s).trans (Nat.le_add_left _ _)
  omega

theorem duration_le (hj : p.jitter = false)
    (h : Works p w direct asked executions load s events t) :
    Event.duration events ≤
      executions * ∑ j ∈ Finset.range (p.attemptLimit - 1), p.backoff j := by
  have hpassed : ∀ e : Event, e.isPause = false → Event.duration [e] = 0 := by
    intro e hpause
    cases e with
    | waited milliseconds => exact absurd hpause.symm Bool.false_ne_true
    | _ => rfl
  have hsum := h.sum_le 0 0 (∑ j ∈ Finset.range (p.attemptLimit - 1), p.backoff j)
    Event.duration_append
    (fun e hcall => (Event.duration_of_isCall (List.forall_mem_singleton.mpr hcall)).le)
    (fun e _ hpause => hpassed e hpause)
    fun s hasks => (p.duration_retrying_le hj hasks w s).trans (Nat.le_add_left _ _)
  omega

end Works

namespace Activity

variable {σ α β : Type} {p : RetryPolicy} {direct : Event → Prop}
  {asked asked' executions executions' load load' : Nat}

/-- In every world the activity takes no more than the given effort. -/
def Within (x : Activity σ α) (p : RetryPolicy) (direct : Event → Prop)
    (asked executions load : Nat) : Prop :=
  ∀ w s, Works p w direct asked executions load s (x.run w s).events (x.run w s).after

theorem within_pure (a : α) : (pure a : Activity σ α).Within p direct asked executions load :=
  fun _ s => .done s

theorem Within.bind {x : Activity σ α} {f : α → Activity σ β}
    (hx : x.Within p direct asked executions load)
    (hf : ∀ a, (f a).Within p direct asked' executions' load') :
    (x >>= f).Within p direct (asked' + asked) (executions' + executions) (load' + load) :=
  fun w s => (hx w s).append (hf _ w _)

theorem Within.mono {x : Activity σ α} (hx : x.Within p direct asked executions load)
    (hasked : asked ≤ asked' := by decide) (hexecutions : executions ≤ executions' := by decide)
    (hload : load ≤ load' := by decide) : x.Within p direct asked' executions' load' :=
  fun w s => (hx w s).mono hasked hexecutions hload

theorem within_call {call : Call} (h : ∀ reply, direct (.called call reply)) :
    (Activity.call call : Activity σ Reply).Within p direct 1 0 0 :=
  fun _ _ => .called call (h _) (.done _)

theorem within_mint (h : ∀ reply, direct (.minted reply)) :
    (mint : Activity σ _).Within p direct 1 0 0 :=
  fun _ _ => .minted (h _) (.done _)

theorem within_emit {e : Event} (hcall : e.isCall = false) (hpause : e.isPause = false) :
    (emit e : Activity σ Unit).Within p direct 0 0 0 :=
  fun _ s => .noted hcall hpause (.done s)

theorem within_dispatch (task : RepairTask) :
    (dispatch task : Activity σ Unit).Within p direct 0 0 0 :=
  (within_emit rfl rfl).bind fun _ => (within_emit rfl rfl).bind fun _ => within_emit rfl rfl

theorem within_retrying {operation : Activity σ Reply} (h : operation.Asks load) :
    (p.retrying operation).Within p direct 0 1 load := by
  intro w s
  rw [← List.append_nil ((p.retrying operation).run w s).events, ← Nat.zero_add load]
  exact .executed h (.done _)

end Activity

end TwinCatalogue
