import Mathlib.Logic.Relation
import TwinCatalogue.Proofs.Counting.Alarm

/-! Calls and repairs at work on the same counters. Several callers make one call after the other,
every repair that a call hands over runs on its own, and whoever goes next does one thing. Whatever
the order, and whatever the remote systems reply, at every moment there are at most as many repairs
ended as handed over, and at most as many handed over as calls failed. -/

namespace TwinCatalogue

namespace Event

/-- How many repairs are counted as dispatched and still to be handed over. -/
def handing (left : List Event) : Nat := (tasks left).length - tally .dispatched left

/-- How many failures are counted before the repairs that they make necessary. -/
def owing (left : List Event) : Nat := tally .dispatched left - tally .primaryFailures left

def unfinished (left : List Event) : Nat := if left.isEmpty then 0 else 1

def verdicts (left : List Event) : Nat := tally .repaired left + tally .irreparable left

/-- What may be left of a call: no repair is handed over before it is counted, and none is counted
before the failure behind it. -/
def Orderly : List Event → Prop
  | [] => True
  | e :: rest => Orderly rest ∧ verdicts [e] = 0 ∧
    tally .dispatched (e :: rest) ≤ (tasks (e :: rest)).length ∧
    (e = counted .dispatched → tally .primaryFailures rest = 0)

/-- What may be left of a repair: its verdict, which comes last, is still to be counted. -/
def Closing : List Event → Prop
  | [] => True
  | e :: rest => Closing rest ∧ verdicts (e :: rest) = 1 ∧
    tally .dispatched [e] = 0 ∧ tally .primaryFailures [e] = 0

theorem Quiet.tally_eq_zero {e : Event} (h : e.Quiet) {counter : Counter}
    (hcounter : counter ≠ .retries) : tally counter [e] = 0 :=
  tally_of_quiet (fun _ he => List.mem_singleton.mp he ▸ h) hcounter

theorem Quiet.tasks_eq_nil {e : Event} (h : e.Quiet) : tasks [e] = [] :=
  tasks_of_quiet fun _ he => List.mem_singleton.mp he ▸ h

theorem Orderly.tally_le {left : List Event} (h : Orderly left) :
    tally .dispatched left ≤ (tasks left).length := by
  cases left with
  | nil => exact Nat.le_refl _
  | cons e rest => exact h.2.2.1

theorem orderly_of_quiet_append {front rest : List Event} (hfront : ∀ e ∈ front, e.Quiet)
    (h : Orderly rest) : Orderly (front ++ rest) := by
  induction front with
  | nil => exact h
  | cons e front ih =>
    have he : e.Quiet := hfront e List.mem_cons_self
    have hrest := ih fun e he => hfront e (List.mem_cons_of_mem _ he)
    have htasks : tasks (e :: (front ++ rest)) = tasks (front ++ rest) := by
      rw [tasks_cons, he.tasks_eq_nil, List.nil_append]
    refine ⟨hrest, ?_, ?_, ?_⟩
    · rw [verdicts, he.tally_eq_zero (by decide), he.tally_eq_zero (by decide)]
    · show tally .dispatched (e :: (front ++ rest)) ≤ (tasks (e :: (front ++ rest))).length
      rw [tally_cons, he.tally_eq_zero (by decide), htasks, Nat.zero_add]
      exact hrest.tally_le
    · rintro rfl
      exact nomatch (show Counter.dispatched = .retries from he)

theorem Alarmed.orderly {α : Type} {result : Except OnboardError α} {events : List Event}
    (h : Alarmed result events) : Orderly events := by
  cases h with
  | quiet h =>
    rw [← List.append_nil events]
    exact orderly_of_quiet_append h trivial
  | raised entries task h =>
    have hentries : ∀ e ∈ entries.map logged, e.Quiet := by simp [Quiet]
    have hback : Orderly (task.toList.flatMap handOver) := by
      cases task with
      | none => exact trivial
      | some task => simp [handOver, Orderly, verdicts, tally, raises, tasks]
    have hrest := orderly_of_quiet_append hentries hback
    have hfailure : counted .primaryFailures ≠ counted .dispatched := by simp
    exact orderly_of_quiet_append h ⟨hrest, rfl, hrest.tally_le, fun he => absurd he hfailure⟩

/-- The next thing of a call: what is then owed is covered by what has just been counted, and a
repair that has just been counted is about to be handed over. -/
theorem Orderly.proceed {e : Event} {rest : List Event} (h : Orderly (e :: rest))
    (he : tasks [e] = []) :
    tally .dispatched [e] + owing rest ≤ owing (e :: rest) + tally .primaryFailures [e] ∧
      handing rest = handing (e :: rest) + tally .dispatched [e] := by
  obtain ⟨-, -, htasks, hfailed⟩ := h
  have hsame : tasks (e :: rest) = tasks rest := by
    rw [tasks_cons, he, List.nil_append]
  rw [hsame, tally_cons .dispatched e rest] at htasks
  rw [owing, owing, handing, handing, hsame, tally_cons .dispatched e rest,
    tally_cons .primaryFailures e rest]
  -- To count a repair is to owe one failure less and to have one repair more to hand over.
  by_cases hdispatched : e = counted .dispatched
  · have hlater := hfailed hdispatched
    have hone : tally .dispatched [e] = 1 := hdispatched ▸ rfl
    omega
  · have hzero := tally_of_ne hdispatched
    omega

theorem Orderly.handOver {task : RepairTask} {rest : List Event}
    (h : Orderly (dispatched task :: rest)) :
    owing (dispatched task :: rest) = owing rest ∧
      handing (dispatched task :: rest) = handing rest + 1 := by
  have hrest : tally .dispatched rest ≤ (tasks rest).length := h.1.tally_le
  have htasks : (tasks (dispatched task :: rest)).length = (tasks rest).length + 1 := rfl
  have htally : ∀ counter, tally counter (dispatched task :: rest) = tally counter rest := by
    intro counter
    have he : tally counter [dispatched task] = 0 := rfl
    rw [tally_cons, he, Nat.zero_add]
  rw [owing, handing, htally, htally, htasks]
  exact ⟨rfl, Nat.sub_add_comm hrest⟩

theorem verdicts_cons (e : Event) (rest : List Event) :
    verdicts (e :: rest) = verdicts [e] + verdicts rest := by
  rw [verdicts, tally_cons, tally_cons .irreparable e rest, verdicts, verdicts]
  omega

theorem Closing.verdicts_eq {left : List Event} (h : Closing left) :
    verdicts left = unfinished left := by
  cases left with
  | nil => rfl
  | cons e rest => exact h.2.1

theorem closing_of_quiet_append {front rest : List Event} (hfront : ∀ e ∈ front, e.Quiet)
    (h : Closing rest) (hrest : verdicts rest = 1) :
    Closing (front ++ rest) ∧ verdicts (front ++ rest) = 1 := by
  induction front with
  | nil => exact ⟨h, hrest⟩
  | cons e front ih =>
    have he : e.Quiet := hfront e List.mem_cons_self
    obtain ⟨hclosing, hone⟩ := ih fun e he => hfront e (List.mem_cons_of_mem _ he)
    have hverdicts : verdicts (e :: (front ++ rest)) = 1 := by
      rw [verdicts_cons, hone, verdicts, he.tally_eq_zero (by decide), he.tally_eq_zero (by decide)]
    exact ⟨⟨hclosing, hverdicts, he.tally_eq_zero (by decide), he.tally_eq_zero (by decide)⟩,
      hverdicts⟩

end Event

open Event

theorem RepairTask.closing_run {σ : Type} (p : RetryPolicy) (task : RepairTask) (w : World σ)
    (s : σ) :
    let events := ((task.run p).run w s).events
    Closing events ∧ verdicts events = 1 := by
  obtain ⟨entry, hverdict⟩ := task.verdict_eq ((task.apply p).run w s).result
  rw [run_eq, hverdict]
  refine closing_of_quiet_append (quiet_apply p task w s) ?_ ?_
  · split <;> simp [Closing, verdicts, tally, raises]
  · split <;> rfl

/-- A caller with the policy of its calls: what is left of the call under way, and the calls that
are still to be made. -/
structure Caller where
  policy : RetryPolicy
  left : List Event
  ahead : List Verb

/-- Callers, and what is left of each repair, at work on the same counters. -/
structure Crew where
  counters : Counters
  callers : List Caller
  repairs : List (List Event)

namespace Crew

def start (runs : List (RetryPolicy × List Verb)) : Crew :=
  ⟨.zero, runs.map fun run => ⟨run.1, [], run.2⟩, []⟩

/-- The repairs that have been counted as dispatched and have not ended: those about to be handed
over, and those of which something is left. -/
def underway (m : Crew) : Nat :=
  (m.callers.map fun c => handing c.left).sum + (m.repairs.map unfinished).sum

/-- One thing that one of the crew does next. Each call and each repair meets a world of its own, so
that nothing is said about how the replies to one depend on the others. -/
inductive Step : Crew → Crew → Prop
  | call {σ : Type} (w : World σ) (s : σ) (v : Verb) {counters : Counters} {policy : RetryPolicy}
      {ahead : List Verb} {before after : List Caller} {repairs : List (List Event)} :
      Step ⟨counters, before ++ ⟨policy, [], v :: ahead⟩ :: after, repairs⟩
        ⟨counters, before ++ ⟨policy, ((v.perform policy).run w s).events, ahead⟩ :: after, repairs⟩
  | proceed {e : Event} (he : tasks [e] = []) {counters : Counters} {policy : RetryPolicy}
      {rest : List Event} {ahead : List Verb} {before after : List Caller}
      {repairs : List (List Event)} :
      Step ⟨counters, before ++ ⟨policy, e :: rest, ahead⟩ :: after, repairs⟩
        ⟨Event.counters counters [e], before ++ ⟨policy, rest, ahead⟩ :: after, repairs⟩
  | handOver {σ : Type} (w : World σ) (s : σ) (task : RepairTask) {counters : Counters}
      {policy : RetryPolicy} {rest : List Event} {ahead : List Verb} {before after : List Caller}
      {repairs : List (List Event)} :
      Step ⟨counters, before ++ ⟨policy, .dispatched task :: rest, ahead⟩ :: after, repairs⟩
        ⟨counters, before ++ ⟨policy, rest, ahead⟩ :: after,
          repairs ++ [((task.run policy).run w s).events]⟩
  | mend {e : Event} {rest : List Event} {counters : Counters} {callers : List Caller}
      {before after : List (List Event)} :
      Step ⟨counters, callers, before ++ (e :: rest) :: after⟩
        ⟨Event.counters counters [e], callers, before ++ rest :: after⟩

abbrev Reaches : Crew → Crew → Prop := Relation.ReflTransGen Step

theorem forall_mem_replace {α : Type} {P : α → Prop} {before after : List α} {x y : α}
    (h : ∀ z ∈ before ++ x :: after, P z) (hy : P y) : ∀ z ∈ before ++ y :: after, P z := by
  simp only [List.forall_mem_append, List.forall_mem_cons] at h ⊢
  exact ⟨h.1, hy, h.2.2⟩

theorem sum_replace {α : Type} (f : α → Nat) (before after : List α) (x : α) :
    ((before ++ x :: after).map f).sum = ((before ++ after).map f).sum + f x := by
  simp only [List.map_append, List.map_cons, List.sum_append, List.sum_cons]
  omega

theorem sum_fresh {f : List Event → Nat} (runs : List (RetryPolicy × List Verb)) (hf : f [] = 0) :
    ((start runs).callers.map fun c => f c.left).sum = 0 := by
  simp [start, Function.comp_def, hf]

structure Sound (m : Crew) : Prop where
  orderly : ∀ c ∈ m.callers, Orderly c.left
  closing : ∀ left ∈ m.repairs, Closing left
  failed : m.counters.dispatched + (m.callers.map fun c => owing c.left).sum ≤
    m.counters.primaryFailures
  settled : m.counters.dispatched = m.counters.settled + m.underway

theorem sound_start (runs : List (RetryPolicy × List Verb)) : Sound (start runs) where
  orderly c hc := by
    obtain ⟨run, -, rfl⟩ := List.mem_map.mp hc
    trivial
  closing left hleft := absurd hleft List.not_mem_nil
  failed := by
    have howing : ((start runs).callers.map fun c => owing c.left).sum = 0 :=
      sum_fresh runs rfl
    rw [howing]
    exact Nat.le_refl _
  settled := by
    have hhanding : ((start runs).callers.map fun c => handing c.left).sum = 0 :=
      sum_fresh runs rfl
    rw [underway, hhanding]
    rfl

theorem Sound.step {m m' : Crew} (h : Sound m) (hstep : Step m m') : Sound m' := by
  obtain ⟨horderly, hclosing, hfailed, hsettled⟩ := h
  cases hstep with
  | @call σ w s v c policy ahead before after repairs =>
    have hcall := v.perform_alarmed policy w s
    obtain ⟨htasks, howed, -⟩ := hcall.tally_eq
    -- A call just begun has everything still to count, so that it owes nothing yet.
    have howing : owing ((v.perform policy).run w s).events = 0 := Nat.sub_eq_zero_of_le howed
    have hhanding : handing ((v.perform policy).run w s).events = 0 := by
      rw [handing, htasks, Nat.sub_self]
    refine ⟨forall_mem_replace horderly hcall.orderly, hclosing, ?_, ?_⟩
    · rw [sum_replace] at hfailed ⊢
      rw [howing]
      exact hfailed
    · rw [underway, sum_replace] at hsettled ⊢
      rw [hhanding]
      exact hsettled
  | @proceed e he c policy rest ahead before after repairs =>
    have hleft : Orderly (e :: rest) :=
      horderly ⟨policy, e :: rest, ahead⟩ (List.mem_append_right _ List.mem_cons_self)
    obtain ⟨howing, hhanding⟩ := hleft.proceed he
    obtain ⟨hrest, hverdicts, -⟩ := hleft
    refine ⟨forall_mem_replace horderly hrest, hclosing, ?_, ?_⟩
    · rw [sum_replace] at hfailed ⊢
      rw [Event.counters_eq]
      dsimp only at hfailed ⊢
      omega
    · rw [underway, sum_replace] at hsettled ⊢
      rw [Event.counters_eq]
      simp only [Counters.settled, verdicts] at hsettled hverdicts ⊢
      omega
  | @handOver σ w s task c policy rest ahead before after repairs =>
    have hleft : Orderly (.dispatched task :: rest) :=
      horderly ⟨policy, .dispatched task :: rest, ahead⟩
        (List.mem_append_right _ List.mem_cons_self)
    obtain ⟨howing, hhanding⟩ := hleft.handOver
    obtain ⟨hrun, hone⟩ := task.closing_run policy w s
    -- The repair passes from those about to be handed over to those of which something is left.
    have hmore := sum_replace unfinished repairs [] ((task.run policy).run w s).events
    rw [List.append_nil, ← hrun.verdicts_eq, hone] at hmore
    refine ⟨forall_mem_replace horderly hleft.1,
      List.forall_mem_append.mpr ⟨hclosing, List.forall_mem_singleton.mpr hrun⟩, ?_, ?_⟩
    · rw [sum_replace] at hfailed ⊢
      rw [← howing]
      exact hfailed
    · rw [underway, sum_replace] at hsettled ⊢
      dsimp only at hsettled ⊢
      omega
  | @mend e rest c callers before after =>
    have hleft : Closing (e :: rest) :=
      hclosing (e :: rest) (List.mem_append_right _ List.mem_cons_self)
    have hverdicts := hleft.verdicts_eq
    obtain ⟨hrest, -, hdispatched, hfailures⟩ := hleft
    rw [verdicts_cons, hrest.verdicts_eq] at hverdicts
    refine ⟨horderly, forall_mem_replace hclosing hrest, ?_, ?_⟩
    · rw [Event.counters_eq]
      dsimp only at hfailed ⊢
      omega
    · rw [underway, sum_replace] at hsettled ⊢
      rw [Event.counters_eq]
      simp only [Counters.settled, verdicts] at hsettled hverdicts ⊢
      omega

theorem Reaches.sound {m m' : Crew} (h : Reaches m m') (hsound : Sound m) : Sound m' := by
  induction h with
  | refl => exact hsound
  | tail _ hstep ih => exact ih.step hstep

end Crew

end TwinCatalogue
