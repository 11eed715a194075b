import TwinCatalogue.Proofs.Adapter.Course
import TwinCatalogue.Proofs.Repair.Outcome

/-! The courses that a repair can take: those of its phases, and the verdict at the end. -/

namespace TwinCatalogue.RepairTask

open Adapter

variable {σ : Type}

def finished : Reply → Except OnboardError Unit
  | .ok _ => .ok ()
  | .error error => .error (.store error)

def PhaseCourse (T : Reply → List Event → Prop) (result : Except OnboardError Unit)
    (events : List Event) : Prop :=
  ∃ reply, Retried T reply events ∧ result = finished reply

inductive CopyOnceCourse (task : RepairTask) (id : String) (mode : CopyMode) (admin : Token) :
    Reply → List Event → Prop
  | unfetched {error : StoreError} : CopyOnceCourse task id mode admin (.error error)
      [.called (.store .centralSide (.get task.kind id) admin) (.error error)]
  | unusable {fetched : Document} (hentity : fetched.restorable task.kind id = none) :
      CopyOnceCourse task id mode admin (.error (noEntity task.kind id))
        [.called (.store .centralSide (.get task.kind id) admin) (.ok fetched)]
  | written {fetched entity : Document} {reply : Reply}
      (hentity : fetched.restorable task.kind id = some entity) :
      CopyOnceCourse task id mode admin reply
        [.called (.store .centralSide (.get task.kind id) admin) (.ok fetched),
          .called (.store .localSide (mode.call task.kind entity) task.token) reply]

inductive CopyCourse (task : RepairTask) (id : String) (mode : CopyMode) :
    Except OnboardError Unit → List Event → Prop
  | carried {admin : Token} {result : Except OnboardError Unit} {events : List Event}
      (hadmin : task.adminToken = some admin)
      (hcopy : PhaseCourse (CopyOnceCourse task id mode admin) result events) :
      CopyCourse task id mode result events
  | unminted {error : TokenError} : CopyCourse task id mode (.error (.token error))
      [.minted (.error error)]
  | minted {admin : Token} {result : Except OnboardError Unit} {events : List Event}
      (hcopy : PhaseCourse (CopyOnceCourse task id mode admin) result events) :
      CopyCourse task id mode result (.minted (.ok admin) :: events)

inductive ReregisterCourse (id : String) (token : Token) :
    Except OnboardError Unit → List Event → Prop
  | unresolved {error : OnboardError} {events : List Event}
      (hresolve : ResolveCourse id token (.error error) events) :
      ReregisterCourse id token (.error error) events
  | tried {url : String} {result : Except OnboardError Unit} {first second : List Event}
      (hresolve : ResolveCourse id token (.ok url) first)
      (htried : PhaseCourse (Asked (.register url id token)) result second) :
      ReregisterCourse id token result (first ++ second)

inductive TakeBackCourse (id : String) (token : Token) :
    Except OnboardError Unit → List Event → Prop
  | kept {error : OnboardError} {events : List Event}
      (hlocal : PhaseCourse (Asked (.store .localSide (.delete .item id none) token))
        (.error error) events) : TakeBackCourse id token (.error error) events
  | unminted {error : TokenError} {events : List Event}
      (hlocal : PhaseCourse (Asked (.store .localSide (.delete .item id none) token))
        (.ok ()) events) :
      TakeBackCourse id token (.error (.token error)) (events ++ [.minted (.error error)])
  | passed {admin : Token} {result : Except OnboardError Unit} {first second : List Event}
      (hlocal : PhaseCourse (Asked (.store .localSide (.delete .item id none) token))
        (.ok ()) first)
      (hcentral : PhaseCourse (Asked (.store .centralSide (.delete .item id none) admin))
        result second) : TakeBackCourse id token result (first ++ .minted (.ok admin) :: second)

/-- The work on a task that names its entity. -/
def WorkCourse (task : RepairTask) (id : String) : Except OnboardError Unit → List Event → Prop :=
  match task.action with
  | .deleteLocal =>
    PhaseCourse (Asked (.store .localSide (.delete task.kind id task.path) task.token))
  | .restoreLocalFromCentral => CopyCourse task id .update
  | .recreateLocalFromCentral => CopyCourse task id .create
  | .recreateAdapter => ReregisterCourse id task.token
  | .rollbackItem => TakeBackCourse id task.token

def verdict (task : RepairTask) : Except OnboardError Unit → List Event
  | .ok () => [.logged (.reconciled task), .counted .repaired]
  | .error error => [.logged (.inconsistent task error), .counted .irreparable]

inductive Course (task : RepairTask) : Bool → List Event → Prop
  | unnamed (hid : task.id = none) :
      Course task false (task.verdict (.error (.missingIdentifier task.kind)))
  | worked {id : String} {result : Except OnboardError Unit} {events : List Event}
      (hid : task.id = some id) (hwork : task.WorkCourse id result events) :
      Course task result.isOk (events ++ task.verdict result)

section

variable {K : Event → Prop} {T : Reply → List Event → Prop} {task : RepairTask} {id : String}
  {token : Token} {result : Except OnboardError Unit} {events : List Event} {e : Event}

theorem PhaseCourse.calls (h : PhaseCourse T result events)
    (hT : ∀ reply events, T reply events → ∀ e ∈ events, K e) (he : e ∈ events)
    (hcall : e.isCall = true) : K e := by
  obtain ⟨reply, htried, -⟩ := h
  have hall : ∀ e ∈ events, e.isCall = true → K e := by
    refine htried.forall_mem (fun e hpause hcall => ?_) (fun error events h e he _ => ?_)
      fun events h e he _ => ?_
    · exact absurd ((Event.isCall_of_isPause hpause).symm.trans hcall) Bool.false_ne_true
    · exact hT _ events h e he
    · exact hT _ events h e he
  exact hall e he hcall

theorem PhaseCourse.asked {call : Call} (h : PhaseCourse (Asked call) result events)
    (he : e ∈ events) (hcall : e.isCall = true) : ∃ reply, e = .called call reply := by
  obtain ⟨reply, htried, -⟩ := h
  exact htried.calls he hcall

/-- The calls of a copy, with the admin tokens `known`. -/
def Copies (task : RepairTask) (id : String) (mode : CopyMode) (known : Token → Prop)
    (e : Event) : Prop :=
  (∃ reply, e = .minted reply) ∨
  (∃ admin reply, known admin ∧
    e = .called (.store .centralSide (.get task.kind id) admin) reply) ∨
  ∃ entity reply, e = .called (.store .localSide (mode.call task.kind entity) task.token) reply

theorem PhaseCourse.copies {mode : CopyMode} {admin : Token} {known : Token → Prop}
    (h : PhaseCourse (CopyOnceCourse task id mode admin) result events) (hknown : known admin)
    (he : e ∈ events) (hcall : e.isCall = true) : task.Copies id mode known e := by
  refine h.calls (fun reply events h e he => ?_) he hcall
  cases h with
  | unfetched =>
    rw [List.mem_singleton.mp he]
    exact Or.inr (Or.inl ⟨admin, _, hknown, rfl⟩)
  | unusable hentity =>
    rw [List.mem_singleton.mp he]
    exact Or.inr (Or.inl ⟨admin, _, hknown, rfl⟩)
  | written hentity =>
    rcases List.mem_cons.mp he with rfl | he
    · exact Or.inr (Or.inl ⟨admin, _, hknown, rfl⟩)
    · rw [List.mem_singleton.mp he]
      exact Or.inr (Or.inr ⟨_, _, rfl⟩)

theorem CopyCourse.calls {mode : CopyMode} (h : CopyCourse task id mode result events)
    (he : e ∈ events) (hcall : e.isCall = true) :
    task.Copies id mode (fun admin => task.adminToken = some admin ∨ .minted (.ok admin) ∈ events)
      e := by
  cases h with
  | carried hadmin hcopy => exact hcopy.copies (Or.inl hadmin) he hcall
  | unminted => exact Or.inl ⟨_, List.mem_singleton.mp he⟩
  | minted hcopy =>
    rcases List.mem_cons.mp he with rfl | he
    · exact Or.inl ⟨_, rfl⟩
    · exact hcopy.copies (Or.inr List.mem_cons_self) he hcall

theorem ReregisterCourse.calls (h : ReregisterCourse id token result events) (he : e ∈ events)
    (hcall : e.isCall = true) : (∃ reply, e = .called (lookup id token) reply) ∨
      ∃ url reply, e = .called (.register url id token) reply := by
  cases h with
  | unresolved hresolve => exact Or.inl (hresolve.calls he)
  | tried hresolve htried =>
    rcases List.mem_append.mp he with he | he
    · exact Or.inl (hresolve.calls he)
    · exact Or.inr ⟨_, htried.asked he hcall⟩

theorem TakeBackCourse.calls (h : TakeBackCourse id token result events) (he : e ∈ events)
    (hcall : e.isCall = true) :
    (∃ reply, e = .called (.store .localSide (.delete .item id none) token) reply) ∨
      (∃ reply, e = .minted reply) ∨ ∃ admin reply, .minted (.ok admin) ∈ events ∧
        e = .called (.store .centralSide (.delete .item id none) admin) reply := by
  cases h with
  | kept hlocal => exact Or.inl (hlocal.asked he hcall)
  | unminted hlocal =>
    rcases List.mem_append.mp he with he | he
    · exact Or.inl (hlocal.asked he hcall)
    · exact Or.inr (Or.inl ⟨_, List.mem_singleton.mp he⟩)
  | passed hlocal hcentral =>
    rcases List.mem_append.mp he with he | he
    · exact Or.inl (hlocal.asked he hcall)
    · rcases List.mem_cons.mp he with rfl | he
      · exact Or.inr (Or.inl ⟨_, rfl⟩)
      · obtain ⟨reply, rfl⟩ := hcentral.asked he hcall
        exact Or.inr (Or.inr ⟨_, reply, List.mem_append_right _ List.mem_cons_self, rfl⟩)

/-- The calls of the work on a task, among all `events` of its run. -/
def Reaches (task : RepairTask) (id : String) (events : List Event) (e : Event) : Prop :=
  let known (admin : Token) := task.adminToken = some admin ∨ .minted (.ok admin) ∈ events
  match task.action with
  | .deleteLocal =>
    ∃ reply, e = .called (.store .localSide (.delete task.kind id task.path) task.token) reply
  | .restoreLocalFromCentral => task.Copies id .update known e
  | .recreateLocalFromCentral => task.Copies id .create known e
  | .recreateAdapter => (∃ reply, e = .called (lookup id task.token) reply) ∨
    ∃ url reply, e = .called (.register url id task.token) reply
  | .rollbackItem =>
    (∃ reply, e = .called (.store .localSide (.delete .item id none) task.token) reply) ∨
      (∃ reply, e = .minted reply) ∨ ∃ admin reply, .minted (.ok admin) ∈ events ∧
        e = .called (.store .centralSide (.delete .item id none) admin) reply

theorem WorkCourse.calls (h : task.WorkCourse id result events) (he : e ∈ events)
    (hcall : e.isCall = true) : task.Reaches id events e := by
  unfold WorkCourse at h
  unfold Reaches
  cases haction : task.action with
  | deleteLocal =>
    rw [haction] at h
    exact PhaseCourse.asked h he hcall
  | restoreLocalFromCentral =>
    rw [haction] at h
    exact CopyCourse.calls h he hcall
  | recreateLocalFromCentral =>
    rw [haction] at h
    exact CopyCourse.calls h he hcall
  | recreateAdapter =>
    rw [haction] at h
    exact ReregisterCourse.calls h he hcall
  | rollbackItem =>
    rw [haction] at h
    exact TakeBackCourse.calls h he hcall

theorem isCall_verdict (he : e ∈ task.verdict result) : e.isCall = false := by
  have hall : ∀ e ∈ task.verdict result, e.isCall = false := by
    rcases result with error | _ <;> simp [verdict, Event.isCall]
  exact hall e he

theorem Course.work_of_call {repaired : Bool} (h : task.Course repaired events) (he : e ∈ events)
    (hcall : e.isCall = true) : ∃ id result work, task.id = some id ∧
      task.WorkCourse id result work ∧ e ∈ work ∧ work ⊆ events := by
  cases h with
  | unnamed => exact absurd ((isCall_verdict he).symm.trans hcall) Bool.false_ne_true
  | worked hid hwork =>
    rcases List.mem_append.mp he with hin | hin
    · exact ⟨_, _, _, hid, hwork, hin, List.subset_append_left _ _⟩
    · exact absurd ((isCall_verdict hin).symm.trans hcall) Bool.false_ne_true

end

theorem takes_phase {p : RetryPolicy} {operation : Activity σ Reply}
    {T : Reply → List Event → Prop} (h : operation.Takes T) :
    (phase p operation).Takes (PhaseCourse T) := by
  refine (Activity.takes_execute h).bind fun outcome events htried => ?_
  cases houtcome : outcome.toExcept with
  | ok doc => exact Activity.takes_pure_after ⟨_, houtcome ▸ htried, rfl⟩
  | error error => exact Activity.takes_pure_after ⟨_, houtcome ▸ htried, rfl⟩

theorem takes_deletion (p : RetryPolicy) (side : Side) (kind : EntityKind) (id : String)
    (path : Option String) (token : Token) :
    (deletion p side kind id path token : Activity σ _).Takes
      (PhaseCourse (Asked (.store side (.delete kind id path) token))) :=
  takes_phase Activity.takes_call

theorem takes_copyOnce (task : RepairTask) (id : String) (mode : CopyMode) (admin : Token) :
    (task.copyOnce id mode admin : Activity σ _).Takes (CopyOnceCourse task id mode admin) := by
  refine Activity.takes_call.bind fun reply events h => ?_
  rw [h]
  cases reply with
  | error error => exact Activity.takes_pure .unfetched
  | ok fetched =>
    dsimp only
    split
    · exact Activity.takes_pure (.unusable ‹_›)
    · refine Activity.takes_call.mono fun reply rest hrest => ?_
      rw [hrest]
      exact .written ‹_›

theorem takes_copy (p : RetryPolicy) (task : RepairTask) (id : String) (mode : CopyMode) :
    (copy p task id mode : Activity σ _).Takes (CopyCourse task id mode) := by
  unfold copy acquireToken
  split
  · rw [pure_bind]
    exact (takes_phase (takes_copyOnce task id mode _)).mono fun _ _ hcopy => .carried ‹_› hcopy
  · refine Activity.takes_mint.bind fun reply events h => ?_
    rw [h]
    cases reply with
    | error error => exact Activity.takes_pure .unminted
    | ok admin =>
      exact (takes_phase (takes_copyOnce task id mode admin)).mono fun _ _ hcopy => .minted hcopy

theorem takes_reregister (p : RetryPolicy) (id : String) (token : Token) :
    (reregister p id token : Activity σ _).Takes (ReregisterCourse id token) := by
  refine (takes_resolve id token).bind fun found events hresolve => ?_
  cases found with
  | error error => exact Activity.takes_pure_after (.unresolved hresolve)
  | ok url =>
    exact (takes_phase Activity.takes_call).mono fun _ _ htried => .tried hresolve htried

theorem takes_takeBack (p : RetryPolicy) (id : String) (token : Token) :
    (takeBack p id token : Activity σ _).Takes (TakeBackCourse id token) := by
  refine (takes_deletion p .localSide .item id none token).bind fun gone first hlocal => ?_
  cases gone with
  | error error => exact Activity.takes_pure_after (.kept hlocal)
  | ok _ =>
    refine Activity.takes_mint.bind fun reply events h => ?_
    rw [h]
    cases reply with
    | error error => exact Activity.takes_pure (.unminted hlocal)
    | ok admin =>
      exact (takes_deletion p .centralSide .item id none admin).mono fun _ _ hcentral =>
        .passed hlocal hcentral

theorem takes_work (p : RetryPolicy) (task : RepairTask) (id : String) :
    (task.perform p id : Activity σ _).Takes (task.WorkCourse id) := by
  unfold perform WorkCourse
  cases task.action with
  | deleteLocal => exact takes_deletion p .localSide task.kind id task.path task.token
  | restoreLocalFromCentral => exact takes_copy p task id .update
  | recreateLocalFromCentral => exact takes_copy p task id .create
  | recreateAdapter => exact takes_reregister p id task.token
  | rollbackItem => exact takes_takeBack p id task.token

theorem takes_run (p : RetryPolicy) (task : RepairTask) :
    (task.run p : Activity σ _).Takes task.Course := by
  unfold run apply
  cases hid : task.id with
  | none =>
    rw [pure_bind]
    exact fun _ s => ⟨.unnamed hid, .noted rfl (.noted rfl (.refl s))⟩
  | some id =>
    refine (takes_work p task id).bind fun result events hwork => ?_
    have hcourse := Course.worked hid hwork
    rcases result with error | _
    · exact fun _ s => ⟨hcourse, .noted rfl (.noted rfl (.refl s))⟩
    · exact fun _ s => ⟨hcourse, .noted rfl (.noted rfl (.refl s))⟩

/-- Each event of a series of repairs belongs to the course of one of them. -/
theorem exists_course_of_mem {p : RetryPolicy} {tasks : List RepairTask} {w : World σ} {s : σ}
    {e : Event} (he : e ∈ ((runAll p tasks).run w s).events) :
    ∃ task ∈ tasks, ∃ repaired events, task.Course repaired events ∧ e ∈ events ∧
      events ⊆ ((runAll p tasks).run w s).events := by
  induction tasks generalizing s with
  | nil => exact absurd he List.not_mem_nil
  | cons task rest ih =>
    let first := (task.run p).run w s
    let second := (runAll p rest).run w first.after
    have hsplit : ((runAll p (task :: rest)).run w s).events = first.events ++ second.events := by
      rw [runAll, Activity.run_bind, Activity.run_bind]
      simp only [Activity.run_pure, List.append_nil]
      rfl
    rw [hsplit] at he ⊢
    rcases List.mem_append.mp he with he | he
    · exact ⟨task, List.mem_cons_self, _, _, (takes_run p task w s).1, he,
        List.subset_append_left _ _⟩
    · obtain ⟨task', htask', repaired, events, hcourse, hmem, hsub⟩ := ih he
      exact ⟨task', List.mem_cons_of_mem _ htask', repaired, events, hcourse, hmem,
        fun e he => List.mem_append_right _ (hsub he)⟩

/-- A call of the repairs behind a call belongs to the work on a task that was handed over. -/
theorem reaches_of_mem_repairs {α : Type} {p : RetryPolicy} {x : Activity σ α} {w : World σ} {s : σ}
    {e : Event} (he : e ∈ (x.settle p w s).repairs.events) (hcall : e.isCall = true) :
    ∃ task ∈ Event.tasks (x.settle p w s).call.events, ∃ id work, task.id = some id ∧
      task.Reaches id work e ∧ work ⊆ (x.settle p w s).repairs.events := by
  obtain ⟨task, htask, repaired, events, hcourse, hmem, hsub⟩ :=
    exists_course_of_mem he
  obtain ⟨id, result, work, hid, hwork, hin, hsub'⟩ := hcourse.work_of_call hmem hcall
  exact ⟨task, htask, id, work, hid, hwork.calls hin hcall, fun e he => hsub (hsub' he)⟩

end TwinCatalogue.RepairTask
