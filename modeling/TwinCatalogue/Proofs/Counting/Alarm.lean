import TwinCatalogue.Proofs.Onboarding.Workflow
import TwinCatalogue.Proofs.Repair.Phases

/-! How a call fails. A call counts nothing but retries, except that at its very end it may raise one
alarm: the failure is counted, and then at most one repair is handed over. -/

namespace TwinCatalogue

namespace Event

theorem tasks_cons (e : Event) (rest : List Event) : tasks (e :: rest) = tasks [e] ++ tasks rest :=
  tasks_append [e] rest

def handOver (task : RepairTask) : List Event :=
  [.counted .dispatched, .logged (.dispatching task), .dispatched task]

/-- The end of a call that has failed: the failure with the records `entries`, and the repair. -/
def alarm (entries : List LogEntry) (task : Option RepairTask) : List Event :=
  .counted .primaryFailures :: (entries.map .logged ++ task.toList.flatMap handOver)

inductive Alarmed {α : Type} : Except OnboardError α → List Event → Prop
  | quiet {result : Except OnboardError α} {events : List Event} (h : ∀ e ∈ events, e.Quiet) :
      Alarmed result events
  | raised {error : OnboardError} {front : List Event} (entries : List LogEntry)
      (task : Option RepairTask) (h : ∀ e ∈ front, e.Quiet) :
      Alarmed (.error error) (front ++ alarm entries task)

section

variable {α β : Type} {result : Except OnboardError α} {first second events : List Event}

theorem quiet_append (h : ∀ e ∈ first, e.Quiet) (h' : ∀ e ∈ second, e.Quiet) :
    ∀ e ∈ first ++ second, e.Quiet := by
  intro e he
  rcases List.mem_append.mp he with he | he
  · exact h e he
  · exact h' e he

theorem Alarmed.prepend (h : Alarmed result second) (hfirst : ∀ e ∈ first, e.Quiet) :
    Alarmed result (first ++ second) := by
  cases h with
  | quiet h => exact .quiet (quiet_append hfirst h)
  | raised entries task h =>
    rw [← List.append_assoc]
    exact .raised entries task (quiet_append hfirst h)

theorem Alarmed.cons {e : Event} (h : Alarmed result events) (he : e.Quiet) :
    Alarmed result (e :: events) := by
  have hfront : ∀ e' ∈ [e], e'.Quiet := fun _ hmem => List.mem_singleton.mp hmem ▸ he
  exact h.prepend hfront

theorem Alarmed.log (h : Alarmed result events) (entry : LogEntry) :
    Alarmed result (.logged entry :: events) :=
  h.cons trivial

theorem Alarmed.quiet_of_ok {a : α} (h : Alarmed (.ok a) events) : ∀ e ∈ events, e.Quiet := by
  cases h with
  | quiet h => exact h

theorem Alarmed.of_error {error : OnboardError} (h : Alarmed (.error error : Except _ α) events) :
    Alarmed (.error error : Except _ β) events := by
  cases h with
  | quiet h => exact .quiet h
  | raised entries task h => exact .raised entries task h

/-- A call counts at most one failure, and hands over at most one repair that it has counted. -/
theorem Alarmed.tally_eq (h : Alarmed result events) :
    tally .dispatched events = (tasks events).length ∧
      tally .dispatched events ≤ tally .primaryFailures events ∧
      tally .primaryFailures events ≤ 1 := by
  cases h with
  | quiet h =>
    rw [tasks_of_quiet h, tally_of_quiet h (by decide), tally_of_quiet h (by decide)]
    decide
  | @raised error front entries task h =>
    have hentries : ∀ e ∈ entries.map logged, e.Quiet := by simp [Quiet]
    have htally : ∀ counter, counter ≠ .retries → tally counter (front ++ alarm entries task) =
        tally counter [.counted .primaryFailures] +
          tally counter (task.toList.flatMap handOver) := by
      intro counter hcounter
      rw [alarm, tally_append, tally_of_quiet h hcounter, tally_cons, tally_append,
        tally_of_quiet hentries hcounter, Nat.zero_add, Nat.zero_add]
    rw [htally .dispatched (by decide), htally .primaryFailures (by decide), alarm, tasks_append,
      tasks_of_quiet h, tasks_cons, tasks_append, tasks_of_quiet hentries]
    cases task with
    | none => decide
    | some task => simp [handOver, tally, raises, tasks]

end

end Event

open Event

section

variable {kind : EntityKind} {operation : Operation} {request : Request}
  {result : Except OnboardError Document} {events : List Event}

theorem LocalCourse.quiet (h : LocalCourse kind operation request result events) :
    ∀ e ∈ events, e.Quiet := by
  cases h <;> simp [Event.Quiet]

theorem giveUpEvents_eq (admin : Token) (error : StoreError) (attempts : Nat) :
    giveUpEvents kind operation request admin error attempts =
      alarm [.gaveUp attempts error] (centralRepair kind operation request admin).head? := by
  cases operation <;> rfl

theorem CentralCourse.alarmed (h : CentralCourse kind operation request result events) :
    Alarmed result events := by
  cases h with
  | unnamed => exact .quiet (List.forall_mem_nil _)
  | unminted => exact .quiet (by simp [Event.Quiet])
  | gaveUp hcall htried =>
    rw [giveUpEvents_eq]
    exact (Alarmed.raised _ _ htried.quiet_call).cons trivial
  | done hcall htried => exact (Alarmed.quiet htried.quiet_call).cons trivial

end

namespace Adapter

variable {id : String} {token : Token} {result : Except OnboardError Document}
  {events : List Event}

theorem ResolveCourse.quiet {found : Except OnboardError String}
    (h : ResolveCourse id token found events) : ∀ e ∈ events, e.Quiet := by
  cases h <;> simp [Event.Quiet]

theorem ServerCourse.alarmed {call : String → Call} {entry : String → LogEntry}
    {parting : String → StoreError → List Event}
    (h : ServerCourse id token call entry parting result events)
    (hparting : ∀ url error, ∃ entries task, parting url error = alarm entries task) :
    Alarmed result events := by
  cases h with
  | unresolved hresolve => exact .quiet hresolve.quiet
  | @failed url error first tried hresolve htried =>
    obtain ⟨entries, task, heq⟩ := hparting url error
    rw [heq]
    exact ((Alarmed.raised entries task htried.quiet_call).log _).prepend hresolve.quiet
  | done hresolve htried =>
    exact ((Alarmed.quiet htried.quiet_call).log _).prepend hresolve.quiet

theorem CreateCourse.alarmed (h : CreateCourse id token result events) : Alarmed result events :=
  ServerCourse.alarmed h fun _ _ => ⟨[_], some (.rollback id token), rfl⟩

theorem DeleteCourse.alarmed (h : DeleteCourse id token result events) : Alarmed result events :=
  ServerCourse.alarmed h fun _ _ => ⟨[_], none, rfl⟩

end Adapter

theorem Onboarding.CreateCourse.alarmed {kind : EntityKind} {request : Request}
    {result : Except OnboardError (Document × String)} {events : List Event}
    (h : CreateCourse kind request result events) : Alarmed result events := by
  cases h with
  | refused hlocal => exact .quiet hlocal.quiet
  | unnamed hlocal hcentral => exact .quiet hlocal.quiet
  | failed hlocal hcentral hwrite =>
    exact (hwrite.alarmed.of_error.log _).prepend hlocal.quiet
  | done hlocal hcentral hwrite =>
    exact .quiet ((hwrite.alarmed.log _).prepend hlocal.quiet).quiet_of_ok

theorem Workflow.Course.alarmed {f : Workflow} {result : Except OnboardError Document}
    {events : List Event} (h : f.Course result events) : Alarmed result events := by
  cases f with
  | onboard kind request =>
    obtain ⟨created, hcreate, rfl⟩ := h
    cases created with
    | error error => exact hcreate.alarmed.of_error
    | ok created => exact .quiet hcreate.alarmed.quiet_of_ok
  | onboardItem body token =>
    cases h with
    | unwritten hwrite => exact hwrite.alarmed.of_error
    | written hwrite hadapter =>
      exact .quiet (hadapter.alarmed.prepend hwrite.alarmed.quiet_of_ok).quiet_of_ok
    | unregistered hwrite hadapter => exact hadapter.alarmed.prepend hwrite.alarmed.quiet_of_ok
  | offboard kind request =>
    cases h with
    | refused hlocal => exact .quiet hlocal.quiet
    | passed hlocal hwrite => exact hwrite.alarmed.prepend hlocal.quiet
  | offboardItem id token =>
    cases h with
    | kept hadapter => exact hadapter.alarmed
    | @refused answer error first second hadapter hlocal =>
      have hrestore : Alarmed (.error error : Except _ Document)
          (second ++ Onboarding.restoreEvents (Onboarding.itemRequest id token)) :=
        .raised [] (some (Onboarding.restoreTask _)) hlocal.quiet
      exact hrestore.prepend hadapter.alarmed.quiet_of_ok
    | passed hadapter hlocal hwrite =>
      exact (hwrite.alarmed.prepend hlocal.quiet).prepend hadapter.alarmed.quiet_of_ok

variable {σ : Type}

theorem executeOn_alarmed (p : RetryPolicy) (kind : EntityKind) (operation : Operation)
    (request : Request) (side : Side) (w : World σ) (s : σ) :
    let e := (executeOn p kind operation request side).run w s
    Alarmed e.result e.events := by
  cases side with
  | localSide => exact .quiet (takes_executeOn_local p kind operation request w s).1.quiet
  | centralSide => exact (takes_executeOn_central p kind operation request w s).1.alarmed

theorem Verb.perform_alarmed (v : Verb) (p : RetryPolicy) (w : World σ) (s : σ) :
    Alarmed ((v.perform p).run w s).result ((v.perform p).run w s).events := by
  cases hv : v.workflow? with
  | some f => exact (Workflow.takes_perform hv p w s).1.alarmed
  | none =>
    cases v with
    | execute kind operation request target =>
      rw [Verb.perform, TwinCatalogue.execute]
      cases Side.parse? target with
      | none => exact .quiet (List.forall_mem_nil _)
      | some side => exact executeOn_alarmed p kind operation request side w s
    | executeOn kind operation request side =>
      exact executeOn_alarmed p kind operation request side w s
    | createAdapter id token => exact (Adapter.takes_create p id token w s).1.alarmed
    | deleteAdapter id token => exact (Adapter.takes_delete p id token w s).1.alarmed
    | offboard kind id path token =>
      rw [Verb.workflow?] at hv
      split at hv <;> cases hv
    | _ => cases hv

/-- A call hands over one repair or none. -/
theorem Verb.settle_cases (v : Verb) (p : RetryPolicy) (w : World σ) (s : σ) :
    let call := (v.perform p).run w s
    (tasks call.events = [] ∧ (v.settle p w s).repairs = ⟨[], [], call.after⟩) ∨
      ∃ task, tasks call.events = [task] ∧
        let e := (task.run p).run w call.after
        (v.settle p w s).repairs = ⟨[e.result], e.events, e.after⟩ := by
  intro call
  obtain ⟨htally, howed, hone⟩ := (v.perform_alarmed p w s).tally_eq
  cases htasks : tasks call.events with
  | nil => exact .inl ⟨rfl, Activity.settle_of_nil htasks⟩
  | cons task others =>
    obtain rfl : others = [] := by
      rw [htasks, List.length_cons] at htally
      exact List.length_eq_zero_iff.mp (by omega)
    exact .inr ⟨task, rfl, Activity.settle_of_single htasks⟩

end TwinCatalogue
