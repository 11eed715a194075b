import TwinCatalogue.Proofs.Events
import TwinCatalogue.Proofs.Repair.Course

/-! A repair as a chain of phases. Each action has its phases in a fixed order; they are gone through
one after the other up to the first that fails, and the repair ends in one verdict. -/

namespace TwinCatalogue

/-- What a phase of a repair does. A deletion, a copy and a registration are run under the retry
policy, minting a token and looking up a resource server are tried once. -/
inductive Phase where
  | deletion (side : Side) (kind : EntityKind) (path : Option String)
  | minting
  | copying (mode : RepairTask.CopyMode)
  | lookup
  | registration
  deriving DecidableEq, Repr

/-- What later phases need of earlier ones. -/
structure Findings where
  admin : Option Token
  url : Option String

/-- A phase as it was gone through. -/
structure Passage where
  phase : Phase
  events : List Event
  succeeded : Bool

theorem Event.tally_of_quiet {events : List Event} (h : ∀ e ∈ events, e.Quiet) {counter : Counter}
    (hcounter : counter ≠ .retries) : Event.tally counter events = 0 := by
  rw [tally, List.countP_eq_zero]
  intro e he
  cases e with
  | counted c =>
    have hc : c = .retries := h _ he
    simpa [raises, hc] using hcounter.symm
  | _ => exact Bool.false_ne_true

namespace Phase

variable {σ : Type}

def tried (p : RetryPolicy) (known : Findings) (operation : Activity σ Reply) :
    Activity σ (Option Findings) := do
  return if (← p.retrying operation).isSuccess then some known else none

/-- The phase for the entity `id`: what is known when it has succeeded. -/
def perform (p : RetryPolicy) (task : RepairTask) (id : String) (known : Findings) :
    Phase → Activity σ (Option Findings)
  | deletion .localSide kind path =>
    tried p known (Activity.call (.store .localSide (.delete kind id path) task.token))
  | deletion .centralSide kind path =>
    match known.admin with
    | none => return none
    | some admin =>
      tried p known (Activity.call (.store .centralSide (.delete kind id path) admin))
  | minting => do
    match ← Activity.mint with
    | .ok admin => return some { known with admin := some admin }
    | .error _ => return none
  | copying mode =>
    match known.admin with
    | none => return none
    | some admin => tried p known (task.copyOnce id mode admin)
  | lookup => do
    match ← Activity.call (Adapter.lookup id task.token) with
    | .ok related =>
      return (Adapter.registrationUrl related).map fun url => { known with url := some url }
    | .error _ => return none
  | registration =>
    match known.url with
    | none => return none
    | some url => tried p known (Activity.call (.register url id task.token))

end Phase

namespace RepairTask

variable {σ α ε : Type}

/-- A token is minted for a copy only if the task carries none. -/
def copyPhases (task : RepairTask) (mode : CopyMode) : List Phase :=
  if task.adminToken.isSome then [.copying mode] else [.minting, .copying mode]

def phases (task : RepairTask) : List Phase :=
  match task.action with
  | .deleteLocal => [.deletion .localSide task.kind task.path]
  | .restoreLocalFromCentral => task.copyPhases .update
  | .recreateLocalFromCentral => task.copyPhases .create
  | .recreateAdapter => [.lookup, .registration]
  | .rollbackItem =>
    [.deletion .localSide .item none, .minting, .deletion .centralSide .item none]

/-- Goes through phases in order, up to the first that fails. -/
def passages (p : RetryPolicy) (task : RepairTask) (id : String) (w : World σ) :
    List Phase → Findings → σ → List Passage
  | [], _, _ => []
  | phase :: rest, known, s =>
    let e := (phase.perform p task id known).run w s
    match e.result with
    | none => [⟨phase, e.events, false⟩]
    | some found => ⟨phase, e.events, true⟩ :: passages p task id w rest found e.after

section

variable {p : RetryPolicy} {task : RepairTask} {id : String} {w : World σ}

theorem passages_prefix (phases : List Phase) (known : Findings) (s : σ) :
    (passages p task id w phases known s).map Passage.phase <+: phases := by
  induction phases generalizing known s with
  | nil => exact List.nil_prefix
  | cons phase rest ih =>
    rw [passages]
    split
    · exact List.cons_prefix_cons.mpr ⟨rfl, List.nil_prefix⟩
    · exact List.cons_prefix_cons.mpr ⟨rfl, ih _ _⟩

/-- Only the last phase that was begun may have failed. -/
theorem passages_dropLast (phases : List Phase) (known : Findings) (s : σ) :
    ∀ x ∈ (passages p task id w phases known s).dropLast, x.succeeded = true := by
  induction phases generalizing known s with
  | nil => exact fun x hx => absurd hx List.not_mem_nil
  | cons phase rest ih =>
    rw [passages]
    split
    · exact fun x hx => absurd hx List.not_mem_nil
    · rename_i found _
      intro x hx
      cases hrest : passages p task id w rest found
          ((phase.perform p task id known).run w s).after with
      | nil =>
        rw [hrest] at hx
        exact absurd hx List.not_mem_nil
      | cons next later =>
        rw [hrest, List.dropLast_cons_of_ne_nil (List.cons_ne_nil _ _)] at hx
        rcases List.mem_cons.mp hx with rfl | hx
        · rfl
        · exact ih found _ x (hrest ▸ hx)

/-- An activity goes through the given phases: its events are theirs, and it succeeds if all of them
are gone through and succeed. -/
def GoesThrough (p : RetryPolicy) (task : RepairTask) (id : String) (w : World σ)
    (x : Activity σ (Except OnboardError Unit)) (phases : List Phase) (known : Findings) : Prop :=
  ∀ s, let gone := passages p task id w phases known s
    (x.run w s).events = gone.flatMap Passage.events ∧
      ((x.run w s).result.isOk = true ↔
        gone.map Passage.phase = phases ∧ ∀ y ∈ gone, y.succeeded = true)

theorem goesThrough_nil (known : Findings) :
    GoesThrough p task id w (pure (.ok ())) [] known := by
  intro s
  exact ⟨rfl, ⟨fun _ => ⟨rfl, fun y hy => absurd hy List.not_mem_nil⟩, fun _ => rfl⟩⟩

/-- An activity that begins with the first phase and ends if that has failed. -/
theorem goesThrough_cons {phase : Phase} {rest : List Phase} {known : Findings}
    {x : Activity σ (Except ε α)} {f : Except ε α → Activity σ (Except OnboardError Unit)}
    (found : α → Findings)
    (hx : ∀ s, (phase.perform p task id known).run w s =
      ⟨(x.run w s).result.toOption.map found, (x.run w s).events, (x.run w s).after⟩)
    (hok : ∀ a, GoesThrough p task id w (f (.ok a)) rest (found a))
    (herror : ∀ e, ∃ error, f (.error e) = pure (.error error)) :
    GoesThrough p task id w (x >>= f) (phase :: rest) known := by
  intro s
  rw [passages, hx s, Activity.run_bind]
  cases hresult : (x.run w s).result with
  | error e =>
    obtain ⟨error, hf⟩ := herror e
    simp [hf, Except.toOption, Except.isOk, Except.toBool]
  | ok a =>
    obtain ⟨hevents, hends⟩ := hok a (x.run w s).after
    simp only [Except.toOption, Option.map_some, List.flatMap_cons, List.map_cons, List.cons.injEq,
      true_and, List.mem_cons, forall_eq_or_imp, hevents]
    exact hends

theorem run_phase (p : RetryPolicy) (operation : Activity σ Reply) (w : World σ) (s : σ) :
    (phase p operation).run w s =
      ⟨finished ((p.retrying operation).run w s).result.toExcept,
        ((p.retrying operation).run w s).events, ((p.retrying operation).run w s).after⟩ := by
  rw [phase, Activity.run_bind]
  cases ((p.retrying operation).run w s).result.toExcept <;> simp [finished]

theorem run_tried (known : Findings) (operation : Activity σ Reply) (w : World σ) (s : σ) :
    (Phase.tried p known operation).run w s =
      ⟨((phase p operation).run w s).result.toOption.map fun _ => known,
        ((phase p operation).run w s).events, ((phase p operation).run w s).after⟩ := by
  rw [Phase.tried, Activity.run_bind, run_phase]
  cases ((p.retrying operation).run w s).result <;>
    simp [RetryOutcome.isSuccess, RetryOutcome.toExcept, Except.toOption, finished]

theorem goesThrough_phase {phase : Phase} {operation : Activity σ Reply} (known : Findings)
    (h : phase.perform p task id known = Phase.tried p known operation) :
    GoesThrough p task id w (RepairTask.phase p operation) [phase] known := by
  rw [← bind_pure (RepairTask.phase p operation)]
  refine goesThrough_cons (fun _ => known) (fun s => ?_) (fun _ => goesThrough_nil known)
    fun error => ⟨error, rfl⟩
  rw [h, run_tried]

theorem perform_minting (known : Findings) (s : σ) :
    (Phase.minting.perform p task id known).run w s =
      ⟨(w.mint s).1.toOption.map fun admin => { known with admin := some admin },
        [.minted (w.mint s).1], (w.mint s).2⟩ := by
  rw [Phase.perform, Activity.run_bind, Activity.run_mint]
  cases (w.mint s).1 <;> rfl

theorem perform_lookup (known : Findings) (s : σ) :
    (Phase.lookup.perform p task id known).run w s =
      ⟨((Adapter.resolve id task.token).run w s).result.toOption.map fun url =>
          { known with url := some url },
        ((Adapter.resolve id task.token).run w s).events,
        ((Adapter.resolve id task.token).run w s).after⟩ := by
  rw [Phase.perform, Adapter.resolve, Activity.run_bind, Activity.run_bind, Activity.run_call,
    Activity.run_call, Adapter.lookup, Adapter.relation, Adapter.urlKey]
  cases (w.answer (.store .localSide (.related id "resourceServer" ["resourceServerRegURL"])
    task.token) s).1 with
  | error error => rfl
  | ok related =>
    dsimp only
    cases Adapter.registrationUrl related <;> rfl

theorem goesThrough_copy (mode : CopyMode) :
    GoesThrough p task id w (copy p task id mode) (task.copyPhases mode)
      ⟨task.adminToken, none⟩ := by
  unfold copy acquireToken copyPhases
  cases hadmin : task.adminToken with
  | some admin => exact goesThrough_phase _ rfl
  | none =>
    exact goesThrough_cons _ (perform_minting _) (fun admin => goesThrough_phase _ rfl)
      fun error => ⟨_, rfl⟩

theorem goesThrough_reregister (known : Findings) :
    GoesThrough p task id w (reregister p id task.token) [.lookup, .registration] known :=
  goesThrough_cons _ (perform_lookup known)
    (fun url => goesThrough_phase { known with url := some url } rfl)
    fun _ => ⟨_, rfl⟩

theorem goesThrough_takeBack (known : Findings) :
    GoesThrough p task id w (takeBack p id task.token)
      [.deletion .localSide .item none, .minting, .deletion .centralSide .item none] known := by
  refine goesThrough_cons (fun _ => known) (fun s => run_tried known _ w s) (fun _ => ?_)
    fun error => ⟨error, rfl⟩
  exact goesThrough_cons _ (perform_minting known)
    (fun admin => goesThrough_phase { known with admin := some admin } rfl)
    fun error => ⟨.token error, rfl⟩

theorem goesThrough_work (p : RetryPolicy) (task : RepairTask) (id : String) (w : World σ) :
    GoesThrough p task id w (task.perform p id) task.phases ⟨task.adminToken, none⟩ := by
  unfold perform phases
  cases task.action with
  | deleteLocal => exact goesThrough_phase _ rfl
  | restoreLocalFromCentral => exact goesThrough_copy .update
  | recreateLocalFromCentral => exact goesThrough_copy .create
  | recreateAdapter => exact goesThrough_reregister _
  | rollbackItem => exact goesThrough_takeBack _

end

theorem run_eq (p : RetryPolicy) (task : RepairTask) (w : World σ) (s : σ) :
    let worked := (task.apply p).run w s
    (task.run p).run w s =
      ⟨worked.result.isOk, worked.events ++ task.verdict worked.result, worked.after⟩ := by
  intro worked
  rw [run, Activity.run_bind]
  cases ((task.apply p).run w s).result <;> simp [worked, verdict, Except.isOk, Except.toBool]

theorem verdict_eq (task : RepairTask) (result : Except OnboardError Unit) :
    ∃ entry, task.verdict result =
      [.logged entry, .counted (if result.isOk then .repaired else .irreparable)] := by
  rcases result with error | _
  · exact ⟨_, rfl⟩
  · exact ⟨_, rfl⟩

theorem counters_run (p : RetryPolicy) (task : RepairTask) (w : World σ) (s : σ) (c : Counters) :
    let e := (task.run p).run w s
    Event.counters c e.events =
      { c with
        repaired := c.repaired + if e.result then 1 else 0
        irreparable := c.irreparable + if e.result then 0 else 1
        retries := c.retries + Event.tally .retries e.events } := by
  intro e
  have he : e = _ := run_eq p task w s
  have hquiet := quiet_apply p task w s
  obtain ⟨entry, hverdict⟩ := task.verdict_eq ((task.apply p).run w s).result
  have htally : ∀ counter, counter ≠ .retries → Event.tally counter e.events =
      Event.tally counter [.logged entry, .counted (if e.result then .repaired else .irreparable)] := by
    intro counter hcounter
    rw [he, Event.tally_append, Event.tally_of_quiet hquiet hcounter, hverdict, Nat.zero_add]
  rw [Event.counters_eq, htally .dispatched (by decide), htally .repaired (by decide),
    htally .irreparable (by decide), htally .primaryFailures (by decide)]
  cases e.result <;> rfl

/-- A repair ends once and leads to no other. It is repaired exactly if each phase of its action has
succeeded, and behind a phase that fails no other is begun. -/
theorem run_ends_once (p : RetryPolicy) (task : RepairTask) (w : World σ) (s : σ) :
    let e := (task.run p).run w s
    (∀ c, Event.counters c e.events =
      { c with
        repaired := c.repaired + if e.result then 1 else 0
        irreparable := c.irreparable + if e.result then 0 else 1
        retries := c.retries + Event.tally .retries e.events }) ∧
    Event.tasks e.events = [] ∧
    match task.id with
    | none => e.result = false ∧ e.events.filter Event.isCall = []
    | some id =>
      let gone := task.passages p id w task.phases ⟨task.adminToken, none⟩ s
      (∃ entry, e.events = gone.flatMap Passage.events ++
        [.logged entry, .counted (if e.result then .repaired else .irreparable)]) ∧
      (e.result = true ↔
        gone.map Passage.phase = task.phases ∧ ∀ x ∈ gone, x.succeeded = true) ∧
      gone.map Passage.phase <+: task.phases ∧
      ∀ x ∈ gone.dropLast, x.succeeded = true := by
  intro e
  have he : e = _ := run_eq p task w s
  refine ⟨task.counters_run p w s, ?_, ?_⟩
  · obtain ⟨entry, hverdict⟩ := task.verdict_eq ((task.apply p).run w s).result
    rw [he, Event.tasks_append, Event.tasks_of_quiet (quiet_apply p task w s), hverdict]
    rfl
  · cases hid : task.id with
    | none =>
      have happly : (task.apply p).run w s = ⟨.error (.missingIdentifier task.kind), [], s⟩ := by
        rw [apply, hid]
        rfl
      rw [he, happly]
      exact ⟨rfl, rfl⟩
    | some id =>
      obtain ⟨hevents, hok⟩ := goesThrough_work p task id w s
      rw [he, apply_of_id hid]
      obtain ⟨entry, hverdict⟩ := task.verdict_eq ((task.perform p id).run w s).result
      refine ⟨⟨entry, ?_⟩, hok, passages_prefix _ _ _, passages_dropLast _ _ _⟩
      rw [hverdict, hevents]

end RepairTask

end TwinCatalogue
