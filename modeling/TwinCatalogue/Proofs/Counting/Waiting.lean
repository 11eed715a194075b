import Mathlib.Algebra.Order.Floor.Div
import Mathlib.Order.Bounds.Basic
import TwinCatalogue.Counters.Timeline

/-! Waiting until nothing is in flight. A wait looks at the counters once every interval, ends at
the first look that finds nothing in flight, and gives up at the first one that is not before its
timeout. A wait that could last beyond what the clock can show is not begun. -/

namespace TwinCatalogue

namespace Counters

/-- The last moment at which a wait looks: the first whole interval that is not before the
timeout. -/
def lastPoll (timeout : Nat) : Nat := pollInterval * (timeout ⌈/⌉ pollInterval)

theorem dvd_lastPoll (timeout : Nat) : pollInterval ∣ lastPoll timeout :=
  Nat.dvd_mul_right _ _

theorem le_lastPoll (timeout : Nat) : timeout ≤ lastPoll timeout := by
  rw [lastPoll, Nat.ceilDiv_eq_add_pred_div, pollInterval]
  omega

theorem lastPoll_lt (timeout : Nat) : lastPoll timeout < timeout + pollInterval := by
  rw [lastPoll, Nat.ceilDiv_eq_add_pred_div, pollInterval]
  omega

/-- Every poll but the last one is before the timeout, by a whole interval before the last one. -/
theorem next_le_lastPoll {timeout elapsed : Nat} (hpoll : pollInterval ∣ elapsed)
    (hlt : elapsed < timeout) : elapsed + pollInterval ≤ lastPoll timeout := by
  have hle := le_lastPoll timeout
  have hlast := dvd_lastPoll timeout
  rw [pollInterval] at hpoll hlast ⊢
  omega

theorem lastPoll_le {timeout elapsed : Nat} (hpoll : pollInterval ∣ elapsed)
    (hle : timeout ≤ elapsed) : lastPoll timeout ≤ elapsed := by
  have hlt := lastPoll_lt timeout
  have hlast := dvd_lastPoll timeout
  rw [pollInterval] at hpoll hlast hlt
  omega

/-- A wait ends as it should: at a poll, not before one that finds nothing in flight, and in vain
only at the last one. -/
structure WaitEnds (timeout : Nat) (counters : Nat → Counters) (idle : Bool) (stop : Nat) :
    Prop where
  poll : pollInterval ∣ stop
  le_last : stop ≤ lastPoll timeout
  busy : ∀ earlier < stop, pollInterval ∣ earlier → (counters earlier).inFlight ≠ 0
  idle_iff : idle = true ↔ (counters stop).inFlight = 0
  in_vain : idle = false → stop = lastPoll timeout

theorem WaitEnds.le {timeout stop stop' : Nat} {counters : Nat → Counters} {idle idle' : Bool}
    (h : WaitEnds timeout counters idle stop) (h' : WaitEnds timeout counters idle' stop') :
    stop ≤ stop' := by
  by_contra hlt
  have hbusy := h.busy stop' (by omega) h'.poll
  cases idle' with
  | true => exact hbusy (h'.idle_iff.mp rfl)
  | false =>
    have hlast := h'.in_vain rfl
    have hle := h.le_last
    omega

theorem WaitEnds.unique {timeout stop stop' : Nat} {counters : Nat → Counters}
    {idle idle' : Bool} (h : WaitEnds timeout counters idle stop)
    (h' : WaitEnds timeout counters idle' stop') : (idle, stop) = (idle', stop') := by
  have hstop : stop = stop' := Nat.le_antisymm (h.le h') (h'.le h)
  subst hstop
  have hidle : idle = idle' := Bool.eq_iff_iff.mpr (h.idle_iff.trans h'.idle_iff.symm)
  rw [hidle]

theorem WaitEnds.congr {timeout stop : Nat} {counters counters' : Nat → Counters} {idle : Bool}
    (h : WaitEnds timeout counters idle stop)
    (hsame : ∀ poll ≤ stop, pollInterval ∣ poll → counters' poll = counters poll) :
    WaitEnds timeout counters' idle stop where
  poll := h.poll
  le_last := h.le_last
  busy := fun earlier hlt hpoll => by
    rw [hsame earlier hlt.le hpoll]
    exact h.busy earlier hlt hpoll
  idle_iff := by
    rw [hsame stop le_rfl h.poll]
    exact h.idle_iff
  in_vain := h.in_vain

/-- The polls that find nothing in flight. -/
def idlePolls (timeout : Nat) (counters : Nat → Counters) : Set Nat :=
  {poll | pollInterval ∣ poll ∧ poll ≤ lastPoll timeout ∧ (counters poll).inFlight = 0}

theorem WaitEnds.idle_iff_nonempty {timeout stop : Nat} {counters : Nat → Counters} {idle : Bool}
    (h : WaitEnds timeout counters idle stop) :
    idle = true ↔ (idlePolls timeout counters).Nonempty := by
  constructor
  · intro hidle
    exact ⟨stop, h.poll, h.le_last, h.idle_iff.mp hidle⟩
  · rintro ⟨poll, hpoll, hle, hzero⟩
    by_contra hidle
    have hstop := h.in_vain (Bool.eq_false_iff.mpr hidle)
    by_cases hlt : poll < stop
    · exact h.busy poll hlt hpoll hzero
    · have hsame : poll = stop := by omega
      exact hidle (h.idle_iff.mpr (hsame ▸ hzero))

theorem WaitEnds.isLeast {timeout stop : Nat} {counters : Nat → Counters}
    (h : WaitEnds timeout counters true stop) : IsLeast (idlePolls timeout counters) stop := by
  refine ⟨⟨h.poll, h.le_last, h.idle_iff.mp rfl⟩, ?_⟩
  rintro poll ⟨hpoll, -, hzero⟩
  by_contra hlt
  exact h.busy poll (by omega) hpoll hzero

/-- What a wait has seen so far is kept from one look to the next. -/
theorem poll_ends_from {timeout : Nat} {counters : Nat → Counters} (elapsed : Nat)
    (hpoll : pollInterval ∣ elapsed) (hle : elapsed ≤ lastPoll timeout)
    (hbusy : ∀ earlier < elapsed, pollInterval ∣ earlier → (counters earlier).inFlight ≠ 0) :
    WaitEnds timeout counters (poll timeout counters elapsed).1
      (poll timeout counters elapsed).2 := by
  fun_induction poll timeout counters elapsed with
  | case1 elapsed hidle => exact ⟨hpoll, hle, hbusy, by simp [hidle], nofun⟩
  | case2 elapsed hidle hover =>
    exact ⟨hpoll, hle, hbusy, by simp [hidle], fun _ => Nat.le_antisymm hle (lastPoll_le hpoll hover)⟩
  | case3 elapsed hidle hover ih =>
    refine ih (Nat.dvd_add hpoll (Nat.dvd_refl _)) (next_le_lastPoll hpoll (by omega)) ?_
    intro earlier hlt hearlier
    by_cases hnow : earlier < elapsed
    · exact hbusy earlier hnow hearlier
    · -- between two looks there is none
      have hsame : earlier = elapsed := by
        rw [pollInterval] at hpoll hearlier hlt
        omega
      rw [hsame]
      exact hidle

theorem poll_ends (timeout : Nat) (counters : Nat → Counters) :
    WaitEnds timeout counters (poll timeout counters 0).1 (poll timeout counters 0).2 :=
  poll_ends_from 0 (Nat.dvd_zero _) (Nat.zero_le _) (fun _ h => absurd h (Nat.not_lt_zero _))

end Counters

namespace Timeline

variable {t after : Timeline} {timeout : Nat} {idle : Bool}

/-- The counters as a wait that begins now finds them. -/
def course (t : Timeline) (after : Nat) : Counters := t.countersAt (t.now + after)

theorem clockLimit_eq : clockLimit = 2 ^ 63 * 1000 := rfl

theorem lt_clockLimit_of_waitIdle (h : t.waitIdle timeout = some (idle, after)) :
    t.now + timeout < clockLimit := by
  by_contra hle
  rw [waitIdle_eq_none_iff.mpr (by omega)] at h
  cases h

theorem waitIdle_ends (h : t.waitIdle timeout = some (idle, after)) :
    ∃ stop, after = { t with now := t.now + stop } ∧
      Counters.WaitEnds timeout t.course idle stop := by
  have hlt := lt_clockLimit_of_waitIdle h
  rw [waitIdle, if_neg (by omega), Option.some.injEq, Prod.mk.injEq] at h
  obtain ⟨rfl, rfl⟩ := h
  exact ⟨_, rfl, Counters.poll_ends timeout t.course⟩

/-- A wait ends with a success at the first poll that finds nothing in flight, and if there is none
up to the last poll, in vain at the last one. No other moment counts. But there is no wait, and it
comes to nothing, if its end is further away than the clock can show. -/
theorem waitIdle_first_idle_poll (t : Timeline) (timeout : Nat) :
    let last := 10 * (timeout ⌈/⌉ 10)
    let inFlight := fun c : Counters => c.dispatched - (c.repaired + c.irreparable)
    let idlePolls := {poll | 10 ∣ poll ∧ poll ≤ last ∧ inFlight (t.course poll) = 0}
    match t.waitIdle timeout with
    | none => 2 ^ 63 * 1000 ≤ t.now + timeout
    | some (idle, after) => t.now + timeout < 2 ^ 63 * 1000 ∧
      ∃ stop, after = { t with now := t.now + stop } ∧
        (idle = true ↔ idlePolls.Nonempty) ∧
        (idle = true → IsLeast idlePolls stop ∧ inFlight after.counters = 0) ∧
        (idle = false → stop = last ∧ timeout ≤ stop) ∧
        stop < timeout + 10 ∧
        ∀ counters : Nat → Counters,
          (∀ poll ≤ stop, 10 ∣ poll → counters poll = t.course poll) →
          Counters.poll timeout counters 0 = (idle, stop) := by
  intro last inFlight idlePolls
  cases hwait : t.waitIdle timeout with
  | none =>
    have hle := waitIdle_eq_none_iff.mp hwait
    rwa [clockLimit_eq] at hle
  | some outcome =>
    obtain ⟨idle, after⟩ := outcome
    have hlt := lt_clockLimit_of_waitIdle hwait
    rw [clockLimit_eq] at hlt
    obtain ⟨stop, rfl, hends⟩ := waitIdle_ends hwait
    refine ⟨hlt, stop, rfl, hends.idle_iff_nonempty, ?_, ?_, ?_, ?_⟩
    · rintro rfl
      exact ⟨hends.isLeast, hends.idle_iff.mp rfl⟩
    · rintro rfl
      exact ⟨hends.in_vain rfl, (Counters.le_lastPoll timeout).trans_eq (hends.in_vain rfl).symm⟩
    · exact hends.le_last.trans_lt (Counters.lastPoll_lt timeout)
    · intro counters hsame
      exact (Counters.poll_ends timeout counters).unique (hends.congr hsame)

/-- Nothing is in flight, now or soon, but the end of the longest wait in whole seconds is beyond
what the clock can show. -/
theorem waitIdle_beyond_clock :
    let timeout := 18446744073709551615 * 1000
    let soon := (start.record .dispatched).schedule 5 .repaired
    (start.course 0).inFlight = 0 ∧ start.waitIdle timeout = none ∧
      (soon.course 10).inFlight = 0 ∧ soon.waitIdle timeout = none := by
  decide

end Timeline

namespace Counters

/-- Records of repairs that have ended, with or without success. -/
def OfEnds (records : List Counter) : Prop := ∀ c ∈ records, c = .repaired ∨ c = .irreparable

theorem inFlight_records {records : List Counter} (h : OfEnds records) (c : Counters) :
    (records.foldl record c).inFlight = c.inFlight - records.length := by
  induction records generalizing c with
  | nil => rfl
  | cons counter rest ih =>
    have hrest : OfEnds rest := fun c hc => h c (List.mem_cons_of_mem _ hc)
    have hfirst : (c.record counter).inFlight = c.inFlight - 1 := by
      obtain rfl | rfl := h counter List.mem_cons_self
      · simp only [record, inFlight, settled]
        omega
      · simp only [record, inFlight, settled]
        omega
    rw [List.foldl_cons, ih hrest, hfirst, List.length_cons]
    omega

end Counters

namespace Timeline

variable {t after : Timeline} {idle : Bool}

theorem ofEnds_due (h : Counters.OfEnds (t.scheduled.map (·.2))) (time : Nat) :
    Counters.OfEnds ((t.scheduled.filter (·.1 < time)).map (·.2)) := by
  intro c hc
  obtain ⟨due, hdue, rfl⟩ := List.mem_map.mp hc
  exact h _ (List.mem_map_of_mem (List.mem_of_mem_filter hdue))

/-- While repairs only end, ever fewer of them are in flight. -/
theorem inFlight_countersAt_anti (h : Counters.OfEnds (t.scheduled.map (·.2))) {time later : Nat}
    (hle : time ≤ later) : (t.countersAt later).inFlight ≤ (t.countersAt time).inFlight := by
  rw [countersAt, countersAt, Counters.inFlight_records (ofEnds_due h later),
    Counters.inFlight_records (ofEnds_due h time)]
  have hmore : (t.scheduled.filter (·.1 < time)).length ≤
      (t.scheduled.filter (·.1 < later)).length := by
    refine (List.monotone_filter_right _ fun due hdue => ?_).length_le
    have hlt : due.1 < time := of_decide_eq_true hdue
    exact decide_eq_true (by omega)
  rw [List.length_map, List.length_map]
  omega

/-- While repairs only end, a wait is in vain only if one is still in flight at its last poll. -/
theorem waitIdle_eq_true_iff (h : Counters.OfEnds (t.scheduled.map (·.2))) {timeout : Nat}
    (hwait : t.waitIdle timeout = some (idle, after)) :
    idle = true ↔ (t.course (Counters.lastPoll timeout)).inFlight = 0 := by
  obtain ⟨stop, -, hends⟩ := waitIdle_ends hwait
  constructor
  · intro hidle
    have hzero := hends.idle_iff.mp hidle
    have hle := inFlight_countersAt_anti h (Nat.add_le_add_left hends.le_last t.now)
    rw [course] at hzero ⊢
    omega
  · intro hzero
    exact hends.idle_iff_nonempty.mpr ⟨_, Counters.dvd_lastPoll timeout, le_rfl, hzero⟩

end Timeline

end TwinCatalogue
