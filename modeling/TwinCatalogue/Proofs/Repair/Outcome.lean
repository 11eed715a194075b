import TwinCatalogue.Proofs.Activity.Leaves
import TwinCatalogue.Verb

/-! What a repair reports about itself. The work on a task is quiet, so that a repair is counted
exactly when that work has ended well. -/

namespace TwinCatalogue

namespace RepairTask

variable {σ : Type}

theorem quiet_phase {p : RetryPolicy} {operation : Activity σ Reply}
    (h : operation.Leaves Event.Quiet) : (phase p operation).Leaves Event.Quiet := by
  refine (Activity.quiet_execute h).bind fun outcome => ?_
  cases outcome.toExcept with
  | ok doc => exact Activity.leaves_pure _ _
  | error e => exact Activity.leaves_pure _ _

theorem quiet_copyOnce (task : RepairTask) (id : String) (mode : CopyMode) (admin : Token) :
    (task.copyOnce id mode admin : Activity σ Reply).Leaves Event.Quiet := by
  refine (Activity.quiet_call _).bind fun reply => ?_
  cases reply with
  | error e => exact Activity.leaves_pure _ _
  | ok fetched =>
    dsimp only
    cases fetched.restorable task.kind id with
    | none => exact Activity.leaves_pure _ _
    | some entity => exact Activity.quiet_call _

theorem quiet_copy (p : RetryPolicy) (task : RepairTask) (id : String) (mode : CopyMode) :
    (copy p task id mode : Activity σ _).Leaves Event.Quiet := by
  have htoken : (task.acquireToken : Activity σ _).Leaves Event.Quiet := by
    unfold acquireToken
    cases task.adminToken with
    | none => exact Activity.quiet_mint
    | some token => exact Activity.leaves_pure _ _
  refine htoken.bind fun reply => ?_
  cases reply with
  | error e => exact Activity.leaves_pure _ _
  | ok admin => exact quiet_phase (quiet_copyOnce _ _ _ _)

theorem quiet_reregister (p : RetryPolicy) (id : String) (token : Token) :
    (reregister p id token : Activity σ _).Leaves Event.Quiet := by
  have hresolve : (Adapter.resolve id token : Activity σ _).Leaves Event.Quiet := by
    refine (Activity.quiet_call _).bind fun reply => ?_
    cases reply with
    | error e => exact Activity.leaves_pure _ _
    | ok related =>
      dsimp only
      cases Adapter.registrationUrl related with
      | none => exact Activity.leaves_pure _ _
      | some url => exact Activity.leaves_pure _ _
  refine hresolve.bind fun found => ?_
  cases found with
  | error e => exact Activity.leaves_pure _ _
  | ok url => exact quiet_phase (Activity.quiet_call _)

theorem quiet_takeBack (p : RetryPolicy) (id : String) (token : Token) :
    (takeBack p id token : Activity σ _).Leaves Event.Quiet := by
  refine (quiet_phase (Activity.quiet_call _)).bind fun gone => ?_
  cases gone with
  | error e => exact Activity.leaves_pure _ _
  | ok _ =>
    refine Activity.quiet_mint.bind fun reply => ?_
    cases reply with
    | error e => exact Activity.leaves_pure _ _
    | ok admin => exact quiet_phase (Activity.quiet_call _)

/-- The work on a task counts nothing but retries and hands over no further repair. -/
theorem quiet_apply (p : RetryPolicy) (task : RepairTask) :
    (task.apply p : Activity σ _).Leaves Event.Quiet := by
  unfold apply
  cases task.id with
  | none => exact Activity.leaves_pure _ _
  | some id =>
    dsimp only
    unfold perform
    cases task.action with
    | deleteLocal => exact quiet_phase (Activity.quiet_call _)
    | restoreLocalFromCentral => exact quiet_copy _ _ _ _
    | recreateLocalFromCentral => exact quiet_copy _ _ _ _
    | recreateAdapter => exact quiet_reregister _ _ _
    | rollbackItem => exact quiet_takeBack _ _ _

theorem apply_of_id {task : RepairTask} {id : String} (h : task.id = some id) (p : RetryPolicy) :
    (task.apply p : Activity σ _) = task.perform p id := by
  rw [apply, h]

/-- A repair that counts itself as repaired has ended like its work, and that has ended well. -/
theorem run_repaired {p : RetryPolicy} {task : RepairTask} {w : World σ} {s : σ}
    (h : Event.counted .repaired ∈ ((task.run p).run w s).events) :
    ((task.apply p).run w s).result = .ok () ∧
      ((task.run p).run w s).after = ((task.apply p).run w s).after := by
  have hquiet : Event.counted .repaired ∉ ((task.apply p).run w s).events :=
    fun he => Counter.noConfusion (quiet_apply p task w s _ he)
  rw [RepairTask.run, Activity.run_bind] at h ⊢
  cases hr : ((task.apply p).run w s).result with
  | ok _ => exact ⟨rfl, rfl⟩
  | error e =>
    simp [hr, hquiet] at h

end RepairTask

theorem Activity.settle_of_nil {σ α : Type} {p : RetryPolicy} {x : Activity σ α} {w : World σ}
    {s : σ} (h : Event.tasks (x.run w s).events = []) :
    (x.settle p w s).repairs = ⟨[], [], (x.run w s).after⟩ := by
  rw [Activity.settle, h]
  rfl

theorem Activity.settle_of_single {σ α : Type} {p : RetryPolicy} {x : Activity σ α} {w : World σ}
    {s : σ} {task : RepairTask} (h : Event.tasks (x.run w s).events = [task]) :
    (x.settle p w s).repairs =
      ⟨[((task.run p).run w (x.run w s).after).result],
        ((task.run p).run w (x.run w s).after).events,
        ((task.run p).run w (x.run w s).after).after⟩ := by
  rw [Activity.settle, h]
  simp [RepairTask.runAll]

end TwinCatalogue
