import TwinCatalogue.Proofs.Catalogue.Basic
import TwinCatalogue.Proofs.Repair.Phases
import TwinCatalogue.Proofs.Retry.Calls
import TwinCatalogue.Script

/-! A copy from the central catalogue, round by round. Each attempt reads the entity afresh, and
what it writes to the local catalogue is what it has just read. -/

namespace TwinCatalogue

variable {σ : Type}

namespace Document

/-- `copy` is an entity as it is, or with its identifier under the key of its kind where nothing
stands there. -/
def CopiedAs (kind : EntityKind) (id : String) (entity copy : Document) : Prop :=
  entity.contains kind.idKey = true ∧ copy = entity ∨
    entity.get? kind.idKey = none ∧ copy = entity.insert kind.idKey (.string id)

theorem copiedAs_insertIfAbsent (kind : EntityKind) (id : String) (entity : Document) :
    CopiedAs kind id entity (entity.insertIfAbsent kind.idKey (.string id)) := by
  unfold CopiedAs insertIfAbsent contains
  cases h : entity.get? kind.idKey <;> simp

theorem copiedAs_of_restorable {kind : EntityKind} {id : String} {answer copy : Document}
    (h : answer.restorable kind id = some copy) :
    ∃ entity, answer.firstResult = some entity ∧ CopiedAs kind id entity copy := by
  obtain ⟨entity, hentity, rfl⟩ := Option.map_eq_some_iff.mp h
  exact ⟨entity, hentity, copiedAs_insertIfAbsent kind id entity⟩

end Document

namespace RepairTask

def CopyMode.action : CopyMode → Repair
  | create => .recreateLocalFromCentral
  | update => .restoreLocalFromCentral

/-- One attempt of a copy: the answer of the central catalogue, and the entity that was written to
the local one with the reply to that. -/
structure Round where
  fetched : Reply
  written : Option (Document × Reply)

namespace Round

variable {task : RepairTask} {id : String} {mode : CopyMode} {admin : Token}

def reply (kind : EntityKind) (id : String) (r : Round) : Reply :=
  match r.fetched, r.written with
  | .error error, _ => .error error
  | .ok _, none => .error (noEntity kind id)
  | .ok _, some (_, reply) => reply

def calls (task : RepairTask) (id : String) (mode : CopyMode) (admin : Token) (r : Round) :
    List Event :=
  .called (.store .centralSide (.get task.kind id) admin) r.fetched ::
    match r.written with
    | none => []
    | some (copy, reply) => [.called (.store .localSide (mode.call task.kind copy) task.token) reply]

/-- A round in which an entity is written exactly if one was read, and the one that was read. -/
structure Faithful (kind : EntityKind) (id : String) (r : Round) : Prop where
  written_iff : r.written.isSome = true ↔
    ∃ answer entity, r.fetched = .ok answer ∧ answer.firstResult = some entity
  copied : ∀ copy reply, r.written = some (copy, reply) →
    ∃ answer entity, r.fetched = .ok answer ∧ answer.firstResult = some entity ∧
      Document.CopiedAs kind id entity copy

/-- The round of an attempt that begins in a given state of the world. -/
def take (task : RepairTask) (id : String) (mode : CopyMode) (admin : Token) (w : World σ) (s : σ) :
    Round :=
  let found := w.answer (.store .centralSide (.get task.kind id) admin) s
  { fetched := found.1
    written := (found.1.toOption.bind (Document.restorable task.kind id)).map fun copy =>
      (copy, (w.answer (.store .localSide (mode.call task.kind copy) task.token) found.2).1) }

theorem copyOnce_run (task : RepairTask) (id : String) (mode : CopyMode) (admin : Token)
    (w : World σ) (s : σ) :
    let r := take task id mode admin w s
    ((task.copyOnce id mode admin).run w s).result = r.reply task.kind id ∧
      ((task.copyOnce id mode admin).run w s).events = r.calls task id mode admin := by
  intro r
  rw [copyOnce, Activity.run_bind, Activity.run_call]
  simp only [r, take, reply, calls]
  cases (w.answer (.store .centralSide (.get task.kind id) admin) s).1 with
  | error error => exact ⟨rfl, rfl⟩
  | ok answer =>
    simp only [Except.toOption, Option.bind_some]
    cases answer.restorable task.kind id with
    | none => exact ⟨rfl, rfl⟩
    | some copy => exact ⟨rfl, rfl⟩

/-- A round is faithful if it writes what can be restored from the answer, whatever else happens
in it. -/
theorem faithful_of_restorable {kind : EntityKind} {r : Round}
    (h : r.written.map Prod.fst = r.fetched.toOption.bind (Document.restorable kind id)) :
    r.Faithful kind id := by
  obtain ⟨fetched, written⟩ := r
  cases fetched with
  | error error =>
    obtain rfl : written = none := Option.map_eq_none_iff.mp h
    exact ⟨by simp, fun _ _ h => nomatch h⟩
  | ok answer =>
    change written.map Prod.fst = answer.restorable kind id at h
    rcases written with _ | ⟨copy, reply⟩
    · have hnone : answer.firstResult = none := Option.map_eq_none_iff.mp h.symm
      exact ⟨by simp [hnone], fun _ _ h => nomatch h⟩
    · obtain ⟨entity, hentity, hcopy⟩ := Document.copiedAs_of_restorable h.symm
      refine ⟨by simp [hentity], fun copy' reply' h => ?_⟩
      obtain ⟨rfl, -⟩ := Prod.mk.inj (Option.some.inj h)
      exact ⟨answer, entity, rfl, hentity, hcopy⟩

theorem faithful_take (w : World σ) (s : σ) :
    (take task id mode admin w s).Faithful task.kind id := by
  refine faithful_of_restorable ?_
  simp only [take, Option.map_map, Function.comp_def, Option.map_id']

theorem filter_isCall_calls (r : Round) :
    (r.calls task id mode admin).filter Event.isCall = r.calls task id mode admin := by
  obtain ⟨fetched, written⟩ := r
  cases written <;> rfl

end Round

theorem perform_of_mode {task : RepairTask} {mode : CopyMode} (haction : task.action = mode.action)
    (p : RetryPolicy) (id : String) : (task.perform p id : Activity σ _) = copy p task id mode := by
  unfold perform
  rw [haction]
  cases mode <;> rfl

/-- The round of attempt number `n`, with attempts counted from one. -/
def roundAt (p : RetryPolicy) (task : RepairTask) (id : String) (mode : CopyMode) (admin : Token)
    (w : World σ) (s : σ) (n : Nat) : Round :=
  .take task id mode admin w (p.stateAfter (task.copyOnce id mode admin) w s (n - 1))

/-- The attempts of a copy are its rounds, up to the first whose reply stops the policy. -/
theorem phase_copyOnce_run (p : RetryPolicy) (task : RepairTask) (id : String) (mode : CopyMode)
    (admin : Token) (w : World σ) (s : σ) :
    let round := roundAt p task id mode admin w s
    let e := (phase p (task.copyOnce id mode admin)).run w s
    ∃ k, IsLeast {j | 1 ≤ j ∧ p.Stops j ((round j).reply task.kind id)} k ∧
      e.events.filter Event.isCall =
        (List.range' 1 k).flatMap (fun j => (round j).calls task id mode admin) ∧
      e.result = finished ((round k).reply task.kind id) := by
  intro round e
  have hattempt : ∀ j, p.attempt (task.copyOnce id mode admin) w s j =
      (task.copyOnce id mode admin).run w
        (p.stateAfter (task.copyOnce id mode admin) w s j) := fun j => rfl
  have hreply : ∀ j, (p.attempt (task.copyOnce id mode admin) w s j).result =
      (round (j + 1)).reply task.kind id := fun j => (Round.copyOnce_run ..).1
  have hcalls : ∀ j, (p.attempt (task.copyOnce id mode admin) w s j).events =
      (round (j + 1)).calls task id mode admin := fun j => (Round.copyOnce_run ..).2
  obtain ⟨m, -, hm, hrun⟩ := p.execute_run true (task.copyOnce id mode admin) w s
  have he : e = _ := run_phase p _ w s
  simp only [hreply] at hm
  refine ⟨m + 1, RetryPolicy.isLeast_from_one hm, ?_, ?_⟩
  · rw [he]
    change ((p.execute true (task.copyOnce id mode admin)).run w s).events.filter Event.isCall = _
    rw [hrun, RetryPolicy.filter_isCall_run]
    simp only [hcalls, Round.filter_isCall_calls]
    rw [List.range'_eq_map_range, List.flatMap_map]
    simp only [Nat.add_comm 1]
  · rw [he]
    change finished ((p.execute true (task.copyOnce id mode admin)).run w s).result.toExcept = _
    rw [hrun, RetryPolicy.toExcept_outcome, hreply]

theorem copy_run_ok {p : RetryPolicy} {task : RepairTask} {admin : Token} {w : World σ} {s : σ}
    (h : (task.acquireToken.run w s).result = .ok admin) (id : String) (mode : CopyMode) :
    let opened := task.acquireToken.run w s
    let e := (phase p (task.copyOnce id mode admin)).run w opened.after
    (copy p task id mode).run w s = ⟨e.result, opened.events ++ e.events, e.after⟩ := by
  intro opened e
  rw [copy, Activity.run_bind, h]

theorem copy_run_error {p : RetryPolicy} {task : RepairTask} {error : TokenError} {w : World σ}
    {s : σ} (h : (task.acquireToken.run w s).result = .error error) (id : String)
    (mode : CopyMode) :
    let opened := task.acquireToken.run w s
    (copy p task id mode).run w s = ⟨.error (.token error), opened.events, opened.after⟩ := by
  intro opened
  rw [copy, Activity.run_bind, h]
  simp only [Activity.run_pure, List.append_nil]
  rfl

theorem filter_isCall_acquireToken (task : RepairTask) (w : World σ) (s : σ) :
    (task.acquireToken.run w s).events.filter Event.isCall = (task.acquireToken.run w s).events := by
  unfold acquireToken
  cases task.adminToken <;> rfl

theorem filter_isCall_verdict (task : RepairTask) (result : Except OnboardError Unit) :
    (task.verdict result).filter Event.isCall = [] := by
  rcases result with error | _ <;> rfl

/-- What a copy calls and how it ends: at once if no token is to be had, and otherwise round after
round. -/
theorem run_copy {task : RepairTask} {id : String} {mode : CopyMode} (hid : task.id = some id)
    (haction : task.action = mode.action) (p : RetryPolicy) (w : World σ) (s : σ) :
    let opened := task.acquireToken.run w s
    let e := (task.run p).run w s
    match opened.result with
    | .error _ => e.events.filter Event.isCall = opened.events ∧ e.result = false
    | .ok admin =>
      let round := roundAt p task id mode admin w opened.after
      ∃ k, IsLeast {j | 1 ≤ j ∧ p.Stops j ((round j).reply task.kind id)} k ∧
        e.events.filter Event.isCall = opened.events ++
          (List.range' 1 k).flatMap (fun j => (round j).calls task id mode admin) ∧
        e.result = ((round k).reply task.kind id).isOk := by
  intro opened e
  have he : e = _ := run_eq p task w s
  rw [apply_of_id hid, perform_of_mode haction] at he
  have hcalls : e.events.filter Event.isCall =
      ((copy p task id mode).run w s).events.filter Event.isCall := by
    rw [he, List.filter_append, filter_isCall_verdict, List.append_nil]
  cases hopened : opened.result with
  | error error =>
    have hcopy := copy_run_error (p := p) hopened id mode
    refine ⟨?_, ?_⟩
    · rw [hcalls, hcopy]
      exact filter_isCall_acquireToken task w s
    · rw [he, hcopy]
      rfl
  | ok admin =>
    have hcopy := copy_run_ok (p := p) hopened id mode
    obtain ⟨k, hk, hrounds, hresult⟩ := phase_copyOnce_run p task id mode admin w opened.after
    refine ⟨k, hk, ?_, ?_⟩
    · rw [hcalls, hcopy, List.filter_append, hrounds]
      exact congrArg (· ++ _) (filter_isCall_acquireToken task w s)
    · rw [he, hcopy]
      dsimp only
      rw [hresult]
      cases (roundAt p task id mode admin w opened.after k).reply task.kind id <;> rfl

end RepairTask

end TwinCatalogue
