import TwinCatalogue.Verb

/-! Calls, tasks, records and events without the tokens that they carry. Whatever is read off events
for callers and operators is read off them without tokens as well. -/

namespace TwinCatalogue

def Token.anonymous (_ : Token) : Token := ⟨""⟩

def Call.anonymous : Call → Call
  | store side call token => store side call token.anonymous
  | register url id token => register url id token.anonymous
  | deregister url id token => deregister url id token.anonymous

def RepairTask.anonymous (task : RepairTask) : RepairTask :=
  { task with token := task.token.anonymous, adminToken := task.adminToken.map Token.anonymous }

theorem RepairTask.anonymous_inj {task task' : RepairTask}
    (h : task.anonymous = task'.anonymous) :
    task.kind = task'.kind ∧ task.action = task'.action ∧ task.id = task'.id ∧
      task.path = task'.path ∧
      task.adminToken.map Token.anonymous = task'.adminToken.map Token.anonymous := by
  simp only [anonymous, mk.injEq] at h
  obtain ⟨hkind, -, -, haction, hid, hpath, -, hadmin⟩ := h
  exact ⟨hkind, haction, hid, hpath, hadmin⟩

def LogEntry.anonymous : LogEntry → LogEntry
  | dispatching task => dispatching task.anonymous
  | reconciled task => reconciled task.anonymous
  | inconsistent task error => inconsistent task.anonymous error
  | entry => entry

def Verb.token : Verb → Token
  | execute _ _ request _ => request.token
  | executeOn _ _ request _ => request.token
  | createAdapter _ token => token
  | deleteAdapter _ token => token
  | onboard _ _ _ token => token
  | onboardItem _ token => token
  | onboardInstance _ _ token => token
  | onboardDomain _ token => token
  | offboard _ _ _ token => token
  | offboardItem _ token => token
  | offboardInstance _ _ token => token
  | offboardDomain _ token => token

def Request.withToken (token : Token) (r : Request) : Request := { r with token := token }

/-- The same verb of a caller with another token. -/
def Verb.withToken (token : Token) : Verb → Verb
  | execute kind operation request target =>
    execute kind operation (request.withToken token) target
  | executeOn kind operation request side => executeOn kind operation (request.withToken token) side
  | createAdapter id _ => createAdapter id token
  | deleteAdapter id _ => deleteAdapter id token
  | onboard kind body path _ => onboard kind body path token
  | onboardItem body _ => onboardItem body token
  | onboardInstance body path _ => onboardInstance body path token
  | onboardDomain body _ => onboardDomain body token
  | offboard kind id path _ => offboard kind id path token
  | offboardItem id _ => offboardItem id token
  | offboardInstance id path _ => offboardInstance id path token
  | offboardDomain id _ => offboardDomain id token

/-- What a record shows: its level, its message and its fields. -/
def LogEntry.shown (entry : LogEntry) : LogLevel × String × List (String × String) :=
  (entry.level, entry.message, entry.fields)

theorem LogEntry.shown_anonymous (entry : LogEntry) : entry.anonymous.shown = entry.shown := by
  cases entry <;> rfl

namespace Event

def anonymous : Event → Event
  | called call reply => called call.anonymous reply
  | minted reply => minted (reply.map Token.anonymous)
  | logged entry => logged entry.anonymous
  | dispatched task => dispatched task.anonymous
  | e => e

/-- Event lists that differ in nothing but tokens. -/
def SameButTokens (events events' : List Event) : Prop :=
  events.map anonymous = events'.map anonymous

theorem tasks_map_anonymous (events : List Event) :
    tasks (events.map anonymous) = (tasks events).map RepairTask.anonymous := by
  induction events with
  | nil => rfl
  | cons e rest ih =>
    cases e with
    | dispatched task => exact congrArg (task.anonymous :: ·) ih
    | _ => exact ih

theorem logs_map_anonymous (events : List Event) :
    (logs (events.map anonymous)).map LogEntry.shown = (logs events).map LogEntry.shown := by
  induction events with
  | nil => rfl
  | cons e rest ih =>
    cases e with
    | logged entry => exact List.cons_eq_cons.mpr ⟨entry.shown_anonymous, ih⟩
    | _ => exact ih

theorem counters_map_anonymous (start : Counters) (events : List Event) :
    counters start (events.map anonymous) = counters start events := by
  induction events generalizing start with
  | nil => rfl
  | cons e rest ih =>
    cases e with
    | counted counter => exact ih (start.record counter)
    | _ => exact ih start

theorem timedCalls_map_anonymous (now : Nat) (events : List Event) :
    timedCalls now (events.map anonymous) =
      (timedCalls now events).map fun timed => (timed.1, timed.2.anonymous) := by
  induction events generalizing now with
  | nil => rfl
  | cons e rest ih =>
    cases e with
    | called call reply => exact congrArg ((now, called call.anonymous reply) :: ·) (ih now)
    | minted reply =>
      exact congrArg ((now, minted (reply.map Token.anonymous)) :: ·) (ih now)
    | waited milliseconds => exact ih (now + milliseconds)
    | _ => exact ih now

theorem timedCounters_map_anonymous (now : Nat) (events : List Event) :
    timedCounters now (events.map anonymous) = timedCounters now events := by
  induction events generalizing now with
  | nil => rfl
  | cons e rest ih =>
    cases e with
    | counted counter => exact congrArg ((now, counter) :: ·) (ih now)
    | waited milliseconds => exact ih (now + milliseconds)
    | _ => exact ih now

end Event

/-- What callers and operators see of a step, with calls shown without their tokens. -/
structure Settled.SameShown {σ σ' α : Type} (a : Settled σ α) (b : Settled σ' α) : Prop where
  outcome : a.call.result = b.call.result
  repaired : a.repairs.result = b.repairs.result
  counters_at_return : ∀ start, Event.counters start a.call.events =
    Event.counters start b.call.events
  counters : ∀ start, Event.counters start a.events = Event.counters start b.events
  counted_at : ∀ now, Event.timedCounters now a.events = Event.timedCounters now b.events
  logs : (Event.logs a.events).map LogEntry.shown = (Event.logs b.events).map LogEntry.shown
  calls : ∀ now, (Event.timedCalls now a.events).map (fun timed => (timed.1, timed.2.anonymous)) =
    (Event.timedCalls now b.events).map fun timed => (timed.1, timed.2.anonymous)

theorem Settled.sameShown {σ σ' α : Type} {a : Settled σ α} {b : Settled σ' α}
    (hresult : a.call.result = b.call.result) (hrepaired : a.repairs.result = b.repairs.result)
    (hcall : Event.SameButTokens a.call.events b.call.events)
    (hrepairs : Event.SameButTokens a.repairs.events b.repairs.events) : a.SameShown b := by
  have hevents : Event.SameButTokens a.events b.events := by
    rw [Event.SameButTokens, Settled.events, Settled.events, List.map_append, List.map_append,
      show List.map Event.anonymous a.call.events = _ from hcall,
      show List.map Event.anonymous a.repairs.events = _ from hrepairs]
  refine ⟨hresult, hrepaired, fun start => ?_, fun start => ?_, fun now => ?_, ?_, fun now => ?_⟩
  · rw [← Event.counters_map_anonymous, hcall, Event.counters_map_anonymous]
  · rw [← Event.counters_map_anonymous, hevents, Event.counters_map_anonymous]
  · rw [← Event.timedCounters_map_anonymous, hevents, Event.timedCounters_map_anonymous]
  · rw [← Event.logs_map_anonymous, hevents, Event.logs_map_anonymous]
  · rw [← Event.timedCalls_map_anonymous, hevents, Event.timedCalls_map_anonymous]

end TwinCatalogue
