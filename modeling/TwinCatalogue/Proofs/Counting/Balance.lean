import TwinCatalogue.Proofs.Counting.Crew
import TwinCatalogue.Proofs.Token.Independence

/-! The counters of a crew, at every moment. Calls made one after the other, each with the repairs
behind it, are one of the ways in which a crew can go about its work. -/

namespace TwinCatalogue

open Event

namespace Crew

/-- A crew gets from one state to another by the given events. Beginning a call is no event. -/
inductive Passes : Crew → List Event → Crew → Prop
  | done (m : Crew) : Passes m [] m
  | begun {m mid m' : Crew} {events : List Event} (hstep : Step m mid)
      (hsame : mid.counters = m.counters) (h : Passes mid events m') : Passes m events m'
  | next {m mid m' : Crew} {e : Event} {events : List Event} (hstep : Step m mid)
      (hcounted : mid.counters = Event.counters m.counters [e]) (h : Passes mid events m') :
      Passes m (e :: events) m'

theorem Passes.append {m mid m' : Crew} {first second : List Event} (h : Passes m first mid)
    (h' : Passes mid second m') : Passes m (first ++ second) m' := by
  induction h with
  | done m => exact h'
  | begun hstep hsame _ ih => exact .begun hstep hsame (ih h')
  | next hstep hcounted _ ih => exact .next hstep hcounted (ih h')

theorem Passes.reaches {m m' : Crew} {events : List Event} (h : Passes m events m') :
    Reaches m m' := by
  induction h with
  | done m => exact .refl
  | begun hstep _ _ ih => exact .head hstep ih
  | next hstep _ _ ih => exact .head hstep ih

theorem Passes.moment {m m' : Crew} {events before after : List Event} (h : Passes m events m')
    (hevents : events = before ++ after) :
    ∃ mid, Reaches m mid ∧ mid.counters = Event.counters m.counters before := by
  induction h generalizing before with
  | done m =>
    obtain ⟨rfl, -⟩ := List.append_eq_nil_iff.mp hevents.symm
    exact ⟨m, .refl, rfl⟩
  | begun hstep hsame _ ih =>
    obtain ⟨mid, hreaches, hcounters⟩ := ih hevents
    exact ⟨mid, .head hstep hreaches, hsame ▸ hcounters⟩
  | @next m mid m' e events hstep hcounted _ ih =>
    cases before with
    | nil => exact ⟨m, .refl, rfl⟩
    | cons e' before =>
      obtain ⟨rfl, hrest⟩ := List.cons.inj hevents
      obtain ⟨last, hreaches, hcounters⟩ := ih hrest
      refine ⟨last, .head hstep hreaches, ?_⟩
      rw [hcounters, hcounted]
      rfl

section

variable {σ : Type} (policy : RetryPolicy) (ahead : List Verb)

/-- A call to its end. Each repair that it hands over is to meet the same world. -/
theorem passes_call (w : World σ) (s : σ) (left : List Event) (counters : Counters)
    (repairs : List (List Event)) :
    Passes ⟨counters, [⟨policy, left, ahead⟩], repairs⟩ left
      ⟨Event.counters counters left, [⟨policy, [], ahead⟩],
        repairs ++ (tasks left).map fun task => ((task.run policy).run w s).events⟩ := by
  induction left generalizing counters repairs with
  | nil =>
    rw [tasks, List.filterMap_nil, List.map_nil, List.append_nil]
    exact .done _
  | cons e rest ih =>
    by_cases he : tasks [e] = []
    · rw [tasks_cons, he]
      have hnext : Step ⟨counters, [] ++ ⟨policy, e :: rest, ahead⟩ :: [], repairs⟩ _ := .proceed he
      exact .next hnext rfl (ih _ _)
    · cases e with
      | dispatched task =>
        have hnext : Step ⟨counters, [] ++ ⟨policy, .dispatched task :: rest, ahead⟩ :: [], repairs⟩ _ :=
          .handOver w s task
        have hrest := ih counters (repairs ++ [((task.run policy).run w s).events])
        rw [List.append_assoc] at hrest
        exact .next hnext rfl hrest
      | _ => exact absurd rfl he

theorem passes_repair (left : List Event) (counters : Counters) (callers : List Caller)
    (repairs : List (List Event)) :
    Passes ⟨counters, callers, repairs ++ [left]⟩ left
      ⟨Event.counters counters left, callers, repairs ++ [[]]⟩ := by
  induction left generalizing counters with
  | nil => exact .done _
  | cons e rest ih =>
    have hnext : Step ⟨counters, callers, repairs ++ (e :: rest) :: []⟩ _ := .mend
    exact .next hnext rfl (ih _)

/-- A call, and then the repair behind it if there is one. -/
theorem passes_settle (w : World σ) (s : σ) (v : Verb) (counters : Counters)
    (repairs : List (List Event)) :
    let events := (v.settle policy w s).events
    ∃ ended, (∀ left ∈ ended, left = []) ∧
      Passes ⟨counters, [⟨policy, [], v :: ahead⟩], repairs⟩ events
        ⟨Event.counters counters events, [⟨policy, [], ahead⟩], repairs ++ ended⟩ := by
  intro events
  let call := (v.perform policy).run w s
  have hbegin : Step ⟨counters, [] ++ ⟨policy, [], v :: ahead⟩ :: [], repairs⟩ _ := .call w s v
  have hcall : Passes ⟨counters, [⟨policy, [], v :: ahead⟩], repairs⟩ call.events _ :=
    .begun hbegin rfl (passes_call policy ahead w call.after call.events counters repairs)
  have hevents : events = call.events ++ (v.settle policy w s).repairs.events := rfl
  rcases v.settle_cases policy w s with ⟨htasks, hrepairs⟩ | ⟨task, htasks, hrepairs⟩
  · rw [hevents, hrepairs, List.append_nil]
    rw [htasks] at hcall
    exact ⟨[], fun _ h => absurd h List.not_mem_nil, hcall⟩
  · rw [hevents, hrepairs, Event.counters_append]
    rw [htasks] at hcall
    exact ⟨[[]], fun _ h => List.mem_singleton.mp h, hcall.append (passes_repair _ _ _ _)⟩

theorem passes_settleAll (w : World σ) (s : σ) (vs : List Verb) (counters : Counters)
    (repairs : List (List Event)) :
    let events := (Verb.settleAll policy w vs s).flatMap Settled.events
    ∃ ended, (∀ left ∈ ended, left = []) ∧
      Passes ⟨counters, [⟨policy, [], vs⟩], repairs⟩ events
        ⟨Event.counters counters events, [⟨policy, [], []⟩], repairs ++ ended⟩ := by
  induction vs generalizing counters repairs s with
  | nil =>
    refine ⟨[], fun _ h => absurd h List.not_mem_nil, ?_⟩
    rw [List.append_nil]
    exact .done _
  | cons v rest ih =>
    obtain ⟨first, hfirst, hcall⟩ := passes_settle policy rest w s v counters repairs
    obtain ⟨second, hsecond, hrest⟩ := ih (v.settle policy w s).repairs.after
      (Event.counters counters (v.settle policy w s).events) (repairs ++ first)
    refine ⟨first ++ second, List.forall_mem_append.mpr ⟨hfirst, hsecond⟩, ?_⟩
    rw [Verb.settleAll, List.flatMap_cons, Event.counters_append, ← List.append_assoc]
    exact hcall.append hrest

end

theorem underway_of_idle {m : Crew} (hcallers : ∀ c ∈ m.callers, c.left = [])
    (hrepairs : ∀ left ∈ m.repairs, left = []) : m.underway = 0 := by
  rw [underway, Nat.add_eq_zero_iff]
  constructor
  · refine List.sum_eq_zero fun n hn => ?_
    obtain ⟨c, hc, rfl⟩ := List.mem_map.mp hn
    rw [hcallers c hc]
    rfl
  · refine List.sum_eq_zero fun n hn => ?_
    obtain ⟨left, hleft, rfl⟩ := List.mem_map.mp hn
    rw [hrepairs left hleft]
    rfl

theorem Sound.balanced {m : Crew} (h : Sound m) :
    m.counters.settled ≤ m.counters.dispatched ∧
      m.counters.dispatched ≤ m.counters.primaryFailures ∧
      m.counters.inFlight = m.underway ∧
      (m.underway = 0 → m.counters.settled = m.counters.dispatched) := by
  obtain ⟨-, -, hfailed, hsettled⟩ := h
  rw [Counters.inFlight]
  omega

end Crew

/-- Whatever calls are made on the same counters, and in whatever order the calls and the repairs do
their work: at every moment no more repairs have ended than were dispatched, and no more were
dispatched than calls have failed. In flight are just the repairs that are under way. Calls made one
after the other, each with its repair, are such an order of work, and at their end nothing is left
under way. A single call adds at most one failure and one repair, and none if it succeeds. -/
theorem crew_balanced :
    (∀ (runs : List (RetryPolicy × List Verb)) (m : Crew), Crew.Reaches (.start runs) m →
      m.counters.settled ≤ m.counters.dispatched ∧
      m.counters.dispatched ≤ m.counters.primaryFailures ∧
      m.counters.inFlight = m.underway ∧
      (m.underway = 0 → m.counters.settled = m.counters.dispatched)) ∧
    ∀ {σ : Type} (p : RetryPolicy) (w : World σ) (s : σ),
      (∀ (vs : List Verb) (before after : List Event),
        (Verb.settleAll p w vs s).flatMap Settled.events = before ++ after →
        ∃ m, Crew.Reaches (.start [(p, vs)]) m ∧ m.counters = Event.counters .zero before ∧
          (after = [] → m.underway = 0)) ∧
      ∀ (v : Verb) (c : Counters),
        let settled := v.settle p w s
        let c' := Event.counters c settled.events
        c'.primaryFailures ≤ c.primaryFailures + 1 ∧ c'.dispatched ≤ c.dispatched + 1 ∧
          (settled.call.result.isOk = true →
            c'.primaryFailures = c.primaryFailures ∧ c'.dispatched = c.dispatched) := by
  refine ⟨fun runs m h => (h.sound (Crew.sound_start runs)).balanced,
    fun p w s => ⟨fun vs before after hevents => ?_, fun v c => ?_⟩⟩
  · obtain ⟨ended, hended, hpasses⟩ := Crew.passes_settleAll p w s vs .zero []
    cases after with
    | nil =>
      rw [hevents, List.append_nil] at hpasses
      exact ⟨_, hpasses.reaches, rfl, fun _ =>
        Crew.underway_of_idle (List.forall_mem_singleton.mpr rfl) hended⟩
    | cons e after =>
      obtain ⟨m, hreaches, hcounters⟩ := hpasses.moment hevents
      exact ⟨m, hreaches, hcounters, nofun⟩
  · intro settled c'
    let call := (v.perform p).run w s
    have hcall : Alarmed call.result call.events := v.perform_alarmed p w s
    obtain ⟨hfailures, hdispatched⟩ :
        c'.primaryFailures = c.primaryFailures + tally .primaryFailures call.events ∧
          c'.dispatched = c.dispatched + tally .dispatched call.events := by
      have hc' : c' = Event.counters (Event.counters c call.events) settled.repairs.events :=
        Event.counters_append c _ _
      rw [Event.counters_eq c call.events] at hc'
      rcases v.settle_cases p w s with ⟨-, hrepairs⟩ | ⟨task, -, hrepairs⟩
      · rw [hc', show settled.repairs = _ from hrepairs]
        exact ⟨rfl, rfl⟩
      · rw [hc', show settled.repairs = _ from hrepairs, task.counters_run]
        exact ⟨rfl, rfl⟩
    obtain ⟨-, howed, hone⟩ := hcall.tally_eq
    refine ⟨by omega, by omega, fun hok => ?_⟩
    have hquiet : ∀ e ∈ call.events, e.Quiet := by
      cases hresult : call.result with
      | ok doc => exact (hresult ▸ hcall).quiet_of_ok
      | error error =>
        rw [show settled.call.result = _ from hresult] at hok
        exact nomatch hok
    rw [tally_of_quiet hquiet (by decide)] at hfailures hdispatched
    exact ⟨hfailures, hdispatched⟩

/-- A domain that the central catalogue will not delete, just before it is copied back. -/
theorem crew_balanced_refused_deletion :
    let script := Script.empty.addCalls (.delete .centralSide) [] (some (.error (.status 500 "down")))
    let verb := Verb.offboardDomain "air" ⟨"ann"⟩
    let call := (verb.perform .standard).run Script.world script
    ∃ m, Crew.Reaches (.start [(.standard, [verb])]) m ∧
      m.counters = Event.counters .zero call.events ∧ m.counters = ⟨1, 0, 0, 4, 1⟩ ∧
      m.underway = 1 := by
  intro script verb call
  let settled := verb.settle .standard Script.world script
  have hevents : (Verb.settleAll .standard Script.world [verb] script).flatMap Settled.events =
      call.events ++ settled.repairs.events := List.append_nil _
  obtain ⟨m, hreaches, hcounters, -⟩ :=
    (crew_balanced.2 .standard Script.world script).1 [verb] _ _ hevents
  have hcall : Event.counters .zero call.events = ⟨1, 0, 0, 4, 1⟩ := by decide +kernel
  obtain ⟨-, -, hunderway, -⟩ := crew_balanced.1 _ m hreaches
  rw [hcounters, hcall] at hunderway
  exact ⟨m, hreaches, hcounters, hcounters.trans hcall, hunderway.symm⟩

end TwinCatalogue
