import TwinCatalogue.Proofs.Counting.Told
import TwinCatalogue.Proofs.Repair.Phases

/-! What the log of a step tells. For every verb, its repairs included, the counters grow by as much
as there are records of what they count, and the calls are made when the recorded delays have
passed. -/

namespace TwinCatalogue

open Activity

variable {σ : Type} {p : RetryPolicy} {kind : EntityKind} {request : Request} {id : String}
  {token : Token}

theorem tells_executeLocal (call : StoreCall) (token : Token) :
    (executeLocal call token : Activity σ _).Tells := by
  refine (tells_call _).bind fun reply => ?_
  cases reply with
  | ok doc => exact tells_pure _
  | error error => exact (tells_log rfl).bind fun _ => tells_pure _

theorem plan_central_action {operation : Operation} {admin : Option Token} {task : RepairTask}
    (h : RepairTask.plan kind operation .centralSide request admin = some task) :
    task.action ≠ .recreateAdapter := by
  cases operation <;> cases h <;> exact Repair.noConfusion

theorem tells_giveUp (kind : EntityKind) (operation : Operation) (request : Request)
    (admin : Token) (error : StoreError) (attempts : Nat) :
    (giveUp kind operation request admin error attempts : Activity σ _).Tells := by
  refine tells_failure rfl rfl ?_
  split
  · exact (tells_dispatch (plan_central_action ‹_›)).bind fun _ => tells_pure _
  · exact (tells_pure _).bind fun _ => tells_pure _

theorem tells_executeCentral (operation : Operation) (call : StoreCall) :
    (executeCentral p kind operation request call : Activity σ _).Tells := by
  refine tells_mint.bind fun reply => ?_
  cases reply with
  | error error => exact (tells_log rfl).bind fun _ => tells_pure _
  | ok admin =>
    refine (tells_retrying (tells_call _)).bind fun outcome => ?_
    cases outcome with
    | success doc => exact tells_pure _
    | exhausted error attempts => exact tells_giveUp _ _ _ _ _ _
    | aborted error attempts => exact tells_giveUp _ _ _ _ _ _

theorem tells_executeOn (operation : Operation) (side : Side) :
    (executeOn p kind operation request side : Activity σ _).Tells := by
  unfold executeOn
  split
  · exact tells_pure _
  · cases side with
    | localSide => exact tells_executeLocal _ _
    | centralSide => exact tells_executeCentral _ _

namespace Adapter

theorem tells_resolve : (resolve id token : Activity σ _).Tells := by
  refine (tells_call _).bind fun reply => ?_
  cases reply with
  | error error => exact tells_pure _
  | ok related =>
    dsimp only
    split
    · exact tells_pure _
    · exact tells_pure _

theorem tells_create : (create p id token : Activity σ _).Tells := by
  refine tells_resolve.bind fun found => ?_
  cases found with
  | error error => exact tells_pure _
  | ok url =>
    refine (tells_log rfl).bind fun _ => (tells_retrying (tells_call _)).bind fun outcome => ?_
    cases outcome.toExcept with
    | ok doc => exact tells_pure _
    | error error =>
      exact tells_failure rfl rfl
        ((tells_dispatch Repair.noConfusion).bind fun _ => tells_pure _)

theorem tells_delete : (delete p id token : Activity σ _).Tells := by
  refine tells_resolve.bind fun found => ?_
  cases found with
  | error error => exact tells_pure _
  | ok url =>
    refine (tells_log rfl).bind fun _ => (tells_retrying (tells_call _)).bind fun outcome => ?_
    cases outcome.toExcept with
    | ok doc => exact tells_pure _
    | error error => exact tells_failure rfl rfl (tells_pure _)

end Adapter

namespace Onboarding

theorem tells_createBoth : (createBoth p kind request : Activity σ _).Tells := by
  refine (tells_executeOn _ _).bind fun created => ?_
  cases created with
  | error error => exact tells_pure _
  | ok created =>
    dsimp only
    split
    · exact tells_pure _
    · refine (tells_log rfl).bind fun _ => (tells_executeOn _ _).bind fun written => ?_
      cases written with
      | error error => exact tells_pure _
      | ok doc => exact tells_pure _

theorem plan_local_action {task : RepairTask}
    (h : RepairTask.plan kind .delete .localSide request none = some task) :
    task.action = .recreateAdapter := by
  obtain ⟨action, haction, rfl⟩ := Option.map_eq_some_iff.mp h
  rw [Repair.recipe] at haction
  split at haction
  · exact (Option.some.inj haction).symm
  · exact nomatch haction

theorem tells_restoreAdapter : (restoreAdapter kind request : Activity σ _).Tells := by
  unfold restoreAdapter
  split
  · exact tells_pure _
  · exact fun _ _ => Event.told_restoration (plan_local_action ‹_›)

theorem tells_deleteBoth (adapterRemoved : Bool) :
    (deleteBoth p kind request adapterRemoved : Activity σ _).Tells := by
  refine (tells_executeOn _ _).bind fun deleted => ?_
  cases deleted with
  | error error =>
    cases adapterRemoved with
    | false => exact (tells_pure _).bind fun _ => tells_pure _
    | true => exact tells_restoreAdapter.bind fun _ => tells_pure _
  | ok doc => exact tells_executeOn _ _

theorem tells_onboard (body : Document) (path : Option String) :
    (onboard p kind body path token : Activity σ _).Tells := by
  refine tells_createBoth.bind fun created => ?_
  cases created with
  | error error => exact tells_pure _
  | ok created => exact tells_pure _

theorem tells_onboardItem (body : Document) : (onboardItem p body token : Activity σ _).Tells := by
  refine tells_createBoth.bind fun created => ?_
  cases created with
  | error error => exact tells_pure _
  | ok created =>
    refine Adapter.tells_create.bind fun answer => ?_
    cases answer with
    | error error => exact tells_pure _
    | ok answer => exact tells_pure _

theorem tells_offboardItem : (offboardItem p id token : Activity σ _).Tells := by
  refine Adapter.tells_delete.bind fun answer => ?_
  cases answer with
  | error error => exact tells_pure _
  | ok answer => exact tells_deleteBoth true

theorem tells_offboard (path : Option String) :
    (offboard p kind id path token : Activity σ _).Tells := by
  unfold offboard
  split
  · exact tells_offboardItem
  · exact tells_deleteBoth false

end Onboarding

theorem tells_perform (p : RetryPolicy) (v : Verb) : (v.perform p : Activity σ _).Tells := by
  cases v with
  | execute kind operation request target =>
    rw [Verb.perform, TwinCatalogue.execute]
    cases Side.parse? target with
    | none => exact tells_pure _
    | some side => exact tells_executeOn _ _
  | executeOn kind operation request side => exact tells_executeOn _ _
  | createAdapter id token => exact Adapter.tells_create
  | deleteAdapter id token => exact Adapter.tells_delete
  | onboard kind body path token => exact Onboarding.tells_onboard _ _
  | onboardItem body token => exact Onboarding.tells_onboardItem _
  | onboardInstance body path token => exact Onboarding.tells_onboard _ _
  | onboardDomain body token => exact Onboarding.tells_onboard _ _
  | offboard kind id path token => exact Onboarding.tells_offboard _
  | offboardItem id token => exact Onboarding.tells_offboardItem
  | offboardInstance id path token => exact Onboarding.tells_offboard _
  | offboardDomain id token => exact Onboarding.tells_offboard _

namespace RepairTask

theorem tells_phase {operation : Activity σ Reply} (h : operation.Tells) :
    (phase p operation).Tells := by
  refine (tells_retrying h).bind fun outcome => ?_
  cases outcome.toExcept with
  | ok doc => exact tells_pure _
  | error error => exact tells_pure _

theorem tells_copyOnce (task : RepairTask) (mode : CopyMode) (admin : Token) :
    (task.copyOnce id mode admin : Activity σ Reply).Tells := by
  refine (tells_call _).bind fun reply => ?_
  cases reply with
  | error error => exact tells_pure _
  | ok fetched =>
    dsimp only
    split
    · exact tells_pure _
    · exact tells_call _

theorem tells_copy (task : RepairTask) (mode : CopyMode) :
    (copy p task id mode : Activity σ _).Tells := by
  unfold copy acquireToken
  split
  · exact (tells_pure _).bind fun reply => by
      cases reply with
      | error error => exact tells_pure _
      | ok admin => exact tells_phase (tells_copyOnce _ _ _)
  · exact tells_mint.bind fun reply => by
      cases reply with
      | error error => exact tells_pure _
      | ok admin => exact tells_phase (tells_copyOnce _ _ _)

theorem tells_reregister : (reregister p id token : Activity σ _).Tells := by
  refine Adapter.tells_resolve.bind fun found => ?_
  cases found with
  | error error => exact tells_pure _
  | ok url => exact tells_phase (tells_call _)

theorem tells_takeBack : (takeBack p id token : Activity σ _).Tells := by
  refine (tells_phase (tells_call _)).bind fun gone => ?_
  cases gone with
  | error error => exact tells_pure _
  | ok _ =>
    refine tells_mint.bind fun reply => ?_
    cases reply with
    | error error => exact tells_pure _
    | ok admin => exact tells_phase (tells_call _)

theorem tells_apply (task : RepairTask) : (task.apply p : Activity σ _).Tells := by
  unfold apply perform
  split
  · exact tells_pure _
  · split
    · exact tells_phase (tells_call _)
    · exact tells_copy _ _
    · exact tells_copy _ _
    · exact tells_reregister
    · exact tells_takeBack

theorem tells_run (task : RepairTask) : (task.run p : Activity σ _).Tells := by
  intro w s
  rw [run_eq]
  exact (tells_apply task w s).append (Event.told_verdict task _)

theorem tells_runAll (tasks : List RepairTask) : (runAll p tasks : Activity σ _).Tells := by
  induction tasks with
  | nil => exact tells_pure _
  | cons task rest ih => exact (tells_run task).bind fun _ => ih.bind fun _ => tells_pure _

end RepairTask

theorem Verb.settle_told (v : Verb) (p : RetryPolicy) (w : World σ) (s : σ) :
    Event.Told (v.settle p w s).events :=
  (tells_perform p v w s).append (RepairTask.tells_runAll _ w _)

namespace Event

def records (message : String) (events : List Event) : Nat :=
  (logs events).countP fun entry => entry.message == message

/-- How often it is on record that the repair which registers an adapter again is handed over. -/
def restorations (events : List Event) : Nat :=
  (logs events).countP fun entry => entry.message == "dispatching compensation" &&
    entry.fields.contains ("action", "re-register ingestion adapter")

/-- The message of the records that account for a counter, if there is only one. -/
def message? : Counter → Option String
  | .dispatched => some "dispatching compensation"
  | .repaired => some "compensation applied, stores reconciled"
  | .irreparable =>
    some "INCONSISTENCY DETECTED: compensation failed, manual intervention required"
  | .retries => some "call failed, retrying"
  | .primaryFailures => none

theorem mem_accounts_iff {counter : Counter} {message : String}
    (h : message? counter = some message) (entry : LogEntry) :
    counter ∈ entry.accounts ↔ (entry.message == message) = true := by
  rw [beq_iff_eq]
  cases entry with
  | dispatching task =>
    by_cases haction : task.action = .recreateAdapter <;> cases counter <;> cases h <;>
      simp [LogEntry.accounts, haction, LogEntry.message]
  | _ => cases counter <;> cases h <;> simp [LogEntry.accounts, LogEntry.message]

theorem accounted_eq_records {counter : Counter} {message : String}
    (h : message? counter = some message) (events : List Event) :
    accounted counter events = records message events := by
  rw [accounted, records]
  exact List.countP_congr fun entry _ => by rw [decide_eq_true_iff, mem_accounts_iff h]

theorem contains_action (task : RepairTask) :
    (LogEntry.dispatching task).fields.contains ("action", "re-register ingestion adapter") =
      decide (task.action = .recreateAdapter) := by
  cases h : task.action <;> simp [LogEntry.fields, LogEntry.taskFields, h, Repair.description]

/-- A failure of a call is on record once: as given up, as a failure at the resource server, or as the
repair that it makes necessary. -/
theorem accounts_primaryFailures (entry : LogEntry) :
    (if decide (Counter.primaryFailures ∈ entry.accounts) then 1 else 0) =
      (if entry.message == "central catalogue call gave up" then 1 else 0) +
        (if entry.message == "adapter registration failed" then 1 else 0) +
        (if entry.message == "adapter deregistration failed" then 1 else 0) +
        if entry.message == "dispatching compensation" &&
          entry.fields.contains ("action", "re-register ingestion adapter") then 1 else 0 := by
  cases entry with
  | dispatching task =>
    rw [contains_action]
    by_cases haction : task.action = .recreateAdapter <;>
      simp [LogEntry.accounts, haction, LogEntry.message]
  | _ => rfl

theorem accounted_primaryFailures (events : List Event) :
    accounted .primaryFailures events =
      records "central catalogue call gave up" events +
        records "adapter registration failed" events +
        records "adapter deregistration failed" events + restorations events := by
  rw [accounted, records, records, records, restorations]
  induction logs events with
  | nil => rfl
  | cons entry rest ih =>
    simp only [List.countP_cons, ih, accounts_primaryFailures entry]
    omega

theorem getElem?_timed {e : Event} (h : e.isCall = true) (before after : List Event) (now : Nat) :
    (timed now (before ++ e :: after))[before.length]? = some (now + duration before, e) := by
  have hlength : ∀ now, (timed now before).length = before.length := by
    induction before with
    | nil => exact fun _ => rfl
    | cons first rest ih => cases first <;> simp [timed, ih]
  rw [timed_append, List.getElem?_append_right (by rw [hlength]), hlength, Nat.sub_self]
  cases e with
  | waited => exact absurd h Bool.false_ne_true
  | _ => rfl

end Event

/-- The log of a step and its counters tell the same story, and the recorded delays tell when each
call is made. -/
theorem settle_records (v : Verb) (p : RetryPolicy) (w : World σ) (s : σ) :
    let events := (v.settle p w s).events
    (∀ start, Event.counters start events =
      { dispatched := start.dispatched + Event.records "dispatching compensation" events
        repaired :=
          start.repaired + Event.records "compensation applied, stores reconciled" events
        irreparable := start.irreparable + Event.records
          "INCONSISTENCY DETECTED: compensation failed, manual intervention required" events
        retries := start.retries + Event.records "call failed, retrying" events
        primaryFailures := start.primaryFailures +
          (Event.records "central catalogue call gave up" events +
            Event.records "adapter registration failed" events +
            Event.records "adapter deregistration failed" events + Event.restorations events) }) ∧
    ∀ now before e after, events = before ++ e :: after → e.isCall = true →
      (Event.timed now events)[before.length]? =
        some (now + (Event.retryDelays before).sum, e) := by
  intro events
  have htold : Event.Told events := v.settle_told p w s
  refine ⟨fun start => ?_, ?_⟩
  · rw [Event.counters_eq]
    simp only [htold.counted, Event.accounted_primaryFailures]
    rw [Event.accounted_eq_records rfl, Event.accounted_eq_records rfl,
      Event.accounted_eq_records rfl, Event.accounted_eq_records rfl]
  · intro now before e after hsplit hcall
    rw [hsplit, Event.getElem?_timed hcall, htold.onTime before e after hsplit hcall]

end TwinCatalogue
