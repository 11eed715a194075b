import TwinCatalogue.Proofs.Activity.Leaves

/-! The courses that runs can take, whatever the world replies. A course is a result together with
the events on the way, and these events also account for every step of the world. -/

namespace TwinCatalogue

/-- The steps that lead a world from one state to another, with the events that they leave. -/
inductive World.Leads {σ : Type} (w : World σ) : σ → List Event → σ → Prop
  | refl (s : σ) : Leads w s [] s
  | called {s t : σ} {events : List Event} (call : Call) (h : Leads w (w.answer call s).2 events t) :
      Leads w s (.called call (w.answer call s).1 :: events) t
  | minted {s t : σ} {events : List Event} (h : Leads w (w.mint s).2 events t) :
      Leads w s (.minted (w.mint s).1 :: events) t
  | drawn {s t : σ} {events : List Event} (h : Leads w (w.draw s).2 events t) : Leads w s events t
  | noted {s t : σ} {events : List Event} {e : Event} (he : e.isCall = false)
      (h : Leads w s events t) : Leads w s (e :: events) t

theorem World.Leads.trans {σ : Type} {w : World σ} {s t u : σ} {first second : List Event}
    (h : w.Leads s first t) (h' : w.Leads t second u) : w.Leads s (first ++ second) u := by
  induction h with
  | refl => exact h'
  | called call _ ih => exact .called call (ih h')
  | minted _ ih => exact .minted (ih h')
  | drawn _ ih => exact .drawn (ih h')
  | noted he _ ih => exact .noted he (ih h')

def Event.isPause : Event → Bool
  | logged (.retrying _ _ _ _) => true
  | logged (.notRetrying _ _) => true
  | counted .retries => true
  | waited _ => true
  | _ => false

theorem Event.isCall_of_isPause {e : Event} (h : e.isPause = true) : e.isCall = false := by
  cases e with
  | called call reply => exact nomatch h
  | minted reply => exact nomatch h
  | _ => rfl

theorem Event.quiet_of_isPause {e : Event} (h : e.isPause = true) : e.Quiet := by
  cases e with
  | counted counter => cases counter <;> first | rfl | exact nomatch h
  | dispatched task => exact nomatch h
  | _ => trivial

/-- The attempts of a retried operation, of which each takes a course of `T`. Only the last one may
succeed; what stands between and behind them are records, counts and waits of the retrying. -/
inductive Retried {α : Type} (T : Except StoreError α → List Event → Prop) :
    Except StoreError α → List Event → Prop
  | last {reply : Except StoreError α} {events parting : List Event} (h : T reply events)
      (hparting : ∀ e ∈ parting, e.isPause = true) : Retried T reply (events ++ parting)
  | again {reply : Except StoreError α} {error : StoreError} {events pause rest : List Event}
      (h : T (.error error) events) (hpause : ∀ e ∈ pause, e.isPause = true)
      (hrest : Retried T reply rest) : Retried T reply (events ++ (pause ++ rest))

def Asked (call : Call) (reply : Reply) (events : List Event) : Prop :=
  events = [.called call reply]

namespace Retried

variable {α : Type} {T : Except StoreError α → List Event → Prop} {K : Event → Prop}
  {reply : Except StoreError α} {events : List Event}

theorem forall_mem (h : Retried T reply events) (hpause : ∀ e, e.isPause = true → K e)
    (herror : ∀ error events, T (.error error) events → ∀ e ∈ events, K e)
    (hlast : ∀ events, T reply events → ∀ e ∈ events, K e) : ∀ e ∈ events, K e := by
  induction h with
  | last h hparting =>
    intro e he
    rcases List.mem_append.mp he with he | he
    · exact hlast _ h e he
    · exact hpause e (hparting e he)
  | again h hp _ ih =>
    intro e he
    rcases List.mem_append.mp he with he | he
    · exact herror _ _ h e he
    · rcases List.mem_append.mp he with he | he
      · exact hpause e (hp e he)
      · exact ih e he

theorem exists_last (h : Retried T reply events) : ∃ last, T reply last ∧ last ⊆ events := by
  induction h with
  | last h _ => exact ⟨_, h, List.subset_append_left _ _⟩
  | again _ _ _ ih =>
    obtain ⟨last, hlast, hsub⟩ := ih
    exact ⟨last, hlast, fun e he =>
      List.mem_append_right _ (List.mem_append_right _ (hsub he))⟩

section Call

variable {call : Call} {reply : Reply} {events : List Event}

theorem called_mem (h : Retried (Asked call) reply events) : .called call reply ∈ events := by
  obtain ⟨last, rfl, hsub⟩ := h.exists_last
  exact hsub (List.mem_singleton_self _)

theorem cases_mem (h : Retried (Asked call) reply events) {e : Event} (he : e ∈ events) :
    e.isPause = true ∨ e = .called call reply ∨ ∃ error, e = .called call (.error error) := by
  refine h.forall_mem (K := fun e => e.isPause = true ∨ e = .called call reply ∨
    ∃ error, e = .called call (.error error)) (fun _ h => Or.inl h) ?_ ?_ e he
  · rintro error _ rfl e he
    exact Or.inr (Or.inr ⟨error, List.mem_singleton.mp he⟩)
  · rintro _ rfl e he
    exact Or.inr (Or.inl (List.mem_singleton.mp he))

theorem call_forall (h : Retried (Asked call) reply events)
    (hcalled : ∀ reply, K (.called call reply)) (hpause : ∀ e, e.isPause = true → K e) :
    ∀ e ∈ events, K e := by
  intro e he
  rcases h.cases_mem he with hp | rfl | ⟨error, rfl⟩
  · exact hpause e hp
  · exact hcalled _
  · exact hcalled _

theorem calls (h : Retried (Asked call) reply events) {e : Event} (he : e ∈ events)
    (hcall : e.isCall = true) : ∃ reply, e = .called call reply := by
  rcases h.cases_mem he with hp | rfl | ⟨error, rfl⟩
  · exact absurd ((Event.isCall_of_isPause hp).symm.trans hcall) Bool.false_ne_true
  · exact ⟨_, rfl⟩
  · exact ⟨_, rfl⟩

theorem quiet_call (h : Retried (Asked call) reply events) : ∀ e ∈ events, e.Quiet :=
  h.call_forall (fun _ => trivial) fun _ => Event.quiet_of_isPause

theorem call_tasks (h : Retried (Asked call) reply events) : Event.tasks events = [] :=
  Event.tasks_of_quiet h.quiet_call

end Call

end Retried

namespace Activity

variable {σ α β : Type}

/-- In every world, a run takes a course of `T`, and its events lead to the state that it leaves. -/
def Takes (x : Activity σ α) (T : α → List Event → Prop) : Prop :=
  ∀ w s, T (x.run w s).result (x.run w s).events ∧ w.Leads s (x.run w s).events (x.run w s).after

variable {T T' : α → List Event → Prop} {U : β → List Event → Prop}

theorem takes_pure {a : α} (h : T a []) : (pure a : Activity σ α).Takes T :=
  fun _ s => ⟨h, .refl s⟩

theorem takes_pure_after {a : α} {events : List Event} (h : T a events) :
    (pure a : Activity σ α).Takes fun a rest => T a (events ++ rest) := by
  refine takes_pure ?_
  rw [List.append_nil]
  exact h

theorem Takes.mono {x : Activity σ α} (hx : x.Takes T) (h : ∀ a events, T a events → T' a events) :
    x.Takes T' :=
  fun w s => ⟨h _ _ (hx w s).1, (hx w s).2⟩

theorem Takes.bind {x : Activity σ α} {f : α → Activity σ β} (hx : x.Takes T)
    (hf : ∀ a events, T a events → (f a).Takes fun b rest => U b (events ++ rest)) :
    (x >>= f).Takes U := by
  intro w s
  obtain ⟨hfirst, hleads⟩ := hx w s
  obtain ⟨hsecond, hleads'⟩ := hf _ _ hfirst w (x.run w s).after
  rw [run_bind]
  exact ⟨hsecond, hleads.trans hleads'⟩

theorem takes_call {call : Call} :
    (Activity.call call : Activity σ Reply).Takes (Asked call) :=
  fun _ _ => ⟨rfl, .called call (.refl _)⟩

theorem takes_mint : (mint : Activity σ _).Takes fun reply events => events = [.minted reply] :=
  fun _ _ => ⟨rfl, .minted (.refl _)⟩

theorem takes_log (entry : LogEntry) :
    (log entry : Activity σ Unit).Takes fun _ events => events = [.logged entry] :=
  fun _ s => ⟨rfl, .noted rfl (.refl s)⟩

theorem takes_count (counter : Counter) :
    (count counter : Activity σ Unit).Takes fun _ events => events = [.counted counter] :=
  fun _ s => ⟨rfl, .noted rfl (.refl s)⟩

theorem takes_wait (milliseconds : Nat) :
    (wait milliseconds : Activity σ Unit).Takes fun _ events => events = [.waited milliseconds] :=
  fun _ s => ⟨rfl, .noted rfl (.refl s)⟩

theorem takes_dispatch (task : RepairTask) : (dispatch task : Activity σ Unit).Takes
    fun _ events => events =
      [.counted .dispatched, .logged (.dispatching task), .dispatched task] :=
  fun _ s => ⟨rfl, .noted rfl (.noted rfl (.noted rfl (.refl s)))⟩

theorem takes_delay (p : RetryPolicy) (retry : Nat) :
    (p.delay retry : Activity σ Nat).Takes fun _ events => events = [] := by
  intro w s
  refine ⟨p.delay_events retry w s, ?_⟩
  rw [p.delay_events retry w s]
  rcases p.delay_after retry w s with h | h
  · rw [h]
    exact .refl s
  · rw [h]
    exact .drawn (.refl _)

theorem takes_pauseFor (p : RetryPolicy) (counted : Bool) (n milliseconds : Nat)
    (error : StoreError) : (p.pauseFor counted n error milliseconds : Activity σ Unit).Takes
      fun _ events => ∀ e ∈ events, e.isPause = true := by
  refine (takes_log _).bind fun _ events hlog => ?_
  subst hlog
  cases counted with
  | false =>
    exact (takes_wait milliseconds).mono fun _ events h => by simp [h, Event.isPause]
  | true =>
    refine (takes_count _).bind fun _ events hcount => ?_
    subst hcount
    exact (takes_wait milliseconds).mono fun _ events h => by simp [h, Event.isPause]

/-- Follows the recursion of the attempts: one course of the operation each. -/
theorem takes_attempts {p : RetryPolicy} {counted : Bool}
    {operation : Activity σ (Except StoreError α)} {T : Except StoreError α → List Event → Prop}
    (hop : operation.Takes T) (left n : Nat) :
    (p.attempts counted operation left n).Takes
      fun outcome events => Retried T outcome.toExcept events := by
  have hstop : ∀ {outcome : RetryOutcome α} {events : List Event}, T outcome.toExcept events →
      (pure outcome : Activity σ _).Takes
        fun outcome rest => Retried T outcome.toExcept (events ++ rest) :=
    fun h => takes_pure (.last h (List.forall_mem_nil _))
  induction left generalizing n with
  | zero =>
    rw [RetryPolicy.attempts]
    refine hop.bind fun reply events h => ?_
    cases reply with
    | ok value => exact hstop h
    | error error =>
      dsimp only
      split
      · refine (takes_log _).bind fun _ parting hlog => takes_pure ?_
        rw [hlog]
        exact .last h (by simp [Event.isPause])
      · exact hstop h
  | succ left ih =>
    rw [RetryPolicy.attempts]
    refine hop.bind fun reply events h => ?_
    cases reply with
    | ok value => exact hstop h
    | error error =>
      dsimp only
      split
      · refine (takes_log _).bind fun _ parting hlog => takes_pure ?_
        rw [hlog]
        exact .last h (by simp [Event.isPause])
      · split
        · refine (takes_delay p _).bind fun milliseconds none hnone => ?_
          subst hnone
          refine (takes_pauseFor p counted n milliseconds error).bind fun _ pause hpause => ?_
          refine (ih (n + 1)).mono fun outcome rest hrest => ?_
          rw [List.nil_append]
          exact .again h hpause hrest
        · exact hstop h

theorem takes_execute {p : RetryPolicy} {counted : Bool}
    {operation : Activity σ (Except StoreError α)} {T : Except StoreError α → List Event → Prop}
    (hop : operation.Takes T) : (p.execute counted operation).Takes
      fun outcome events => Retried T outcome.toExcept events :=
  takes_attempts hop _ _

theorem takes_retrying {p : RetryPolicy} (call : Call) :
    (p.retrying (Activity.call call) : Activity σ _).Takes
      fun outcome events => Retried (Asked call) outcome.toExcept events :=
  takes_execute takes_call

end Activity

end TwinCatalogue
