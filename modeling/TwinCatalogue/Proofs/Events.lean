import Mathlib.Algebra.BigOperators.Group.Finset.Basic
import Mathlib.Algebra.GroupWithZero.Nat
import TwinCatalogue.Activity

/-! Numbers read off events: how often each counter is raised, how many retries are on record
and with which delays, and when each event happens. -/

namespace TwinCatalogue

def LogEntry.retryDelay? : LogEntry → Option Nat
  | .retrying _ _ delay _ => some delay
  | _ => none

namespace Event

def raises (counter : Counter) : Event → Bool
  | counted c => decide (c = counter)
  | _ => false

def tally (counter : Counter) (events : List Event) : Nat := events.countP (raises counter)

theorem mem_counted_iff {counter : Counter} {events : List Event} :
    counted counter ∈ events ↔ 0 < tally counter events := by
  rw [tally, List.countP_pos_iff]
  constructor
  · intro h
    exact ⟨_, h, by simp [raises]⟩
  · rintro ⟨e, he, hr⟩
    cases e with
    | counted c => exact of_decide_eq_true hr ▸ he
    | _ => exact nomatch hr

def retryDelays (events : List Event) : List Nat := (logs events).filterMap LogEntry.retryDelay?

@[simp] theorem tally_append (counter : Counter) (first second : List Event) :
    tally counter (first ++ second) = tally counter first + tally counter second :=
  List.countP_append

theorem tally_cons (counter : Counter) (e : Event) (rest : List Event) :
    tally counter (e :: rest) = tally counter [e] + tally counter rest :=
  tally_append counter [e] rest

theorem tally_of_ne {e : Event} {counter : Counter} (h : e ≠ counted counter) :
    tally counter [e] = 0 := by
  cases e with
  | counted c =>
    have hc : c ≠ counter := fun hc => h (congrArg counted hc)
    simp [tally, raises, hc]
  | _ => rfl

@[simp] theorem retryDelays_append (first second : List Event) :
    retryDelays (first ++ second) = retryDelays first ++ retryDelays second := by
  simp [retryDelays]

theorem counters_eq (start : Counters) (events : List Event) :
    counters start events =
      ⟨start.dispatched + tally .dispatched events, start.repaired + tally .repaired events,
        start.irreparable + tally .irreparable events, start.retries + tally .retries events,
        start.primaryFailures + tally .primaryFailures events⟩ := by
  induction events generalizing start with
  | nil => rfl
  | cons e rest ih =>
    change counters (counters start [e]) rest = _
    rw [ih]
    cases e with
    | counted c =>
      cases c <;>
        simp [counters, Counters.record, tally, raises, Nat.add_assoc, Nat.add_comm 1]
    | _ => rfl

theorem sum_blocks {f : List Event → Nat} (hf : ∀ first second, f (first ++ second) = f first + f second)
    (block : Nat → List Event) (n : Nat) :
    f ((List.range n).flatMap block) = ∑ j ∈ Finset.range n, f (block j) := by
  induction n with
  | zero =>
    have h := hf [] []
    simp only [List.append_nil] at h
    simp only [List.range_zero, List.flatMap_nil, Finset.range_zero, Finset.sum_empty]
    omega
  | succ n ih =>
    rw [List.range_succ, List.flatMap_append, hf, ih, Finset.sum_range_succ]
    simp only [List.flatMap_cons, List.flatMap_nil, List.append_nil]

/-- Each block of events begins when those before it have passed. -/
theorem timed_blocks (block : Nat → List Event) (n : Nat) :
    timed 0 ((List.range n).flatMap block) =
      (List.range n).flatMap fun j =>
        timed (∑ i ∈ Finset.range j, duration (block i)) (block j) := by
  induction n with
  | zero => rfl
  | succ n ih =>
    rw [List.range_succ, List.flatMap_append, List.flatMap_append, timed_append, ih,
      sum_blocks duration_append]
    simp only [List.flatMap_cons, List.flatMap_nil, List.append_nil, Nat.zero_add]

end Event

end TwinCatalogue
