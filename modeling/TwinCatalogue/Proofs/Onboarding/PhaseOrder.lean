import TwinCatalogue.Proofs.Onboarding.CallOrder
import TwinCatalogue.Proofs.Repair.Course
import TwinCatalogue.Script

/-! The order of the phases of a whole step: the call, and then the repair that it handed over. -/

namespace TwinCatalogue

/-- A repair that takes an item back reaches for the central side only behind its own deletion of
the local entry. -/
def TakenBack (task : RepairTask) (before : List Event) (e : Event) : Prop :=
  e.ToCentral → ∃ id doc, task.id = some id ∧
    .called (.store .localSide (.delete .item id none) task.token) (.ok doc) ∈ before

/-- A repair may begin as soon as it is handed over, which is the last thing that a call does. -/
structure PhaseOrder {σ : Type} (f : Workflow) (settled : Settled σ (Except OnboardError Document)) :
    Prop where
  opened : Event.Guarded (Opened f.kind f.operation f.request) settled.call.events
  unwritten : ¬ Written f.kind f.operation f.request settled.call.events →
    ∀ e ∈ settled.events, ¬ e.ToCentral
  refused : ∀ call error, StoreCall.ofRequest f.kind f.operation f.request = some call →
    .called (.store .localSide call f.request.token) (.error error) ∈ settled.call.events →
      ∀ e ∈ settled.events, ¬ e.ToCentral
  announced : Event.Guarded Announced settled.call.events
  released : ∀ id token, f = .offboardItem id token →
    Event.Guarded (Released id token) settled.events
  hands_over_last : Event.tasks settled.call.events.dropLast = []
  taken_back : ∀ task ∈ Event.tasks settled.call.events, task.action = .rollbackItem →
    Event.Guarded (TakenBack task) settled.repairs.events
  restored : ∀ url id token reply,
    .called (.register url id token) reply ∈ settled.repairs.events →
      f = .offboardItem id token ∧
      (∃ url doc, .called (.deregister url id token) (.ok doc) ∈ settled.call.events) ∧
      ∃ error, .called (.store .localSide (.delete .item id none) token) (.error error) ∈
        settled.call.events

namespace RepairTask

variable {id : String} {token : Token} {result : Except OnboardError Unit} {events : List Event}

theorem PhaseCourse.called_mem {call : Call} (h : PhaseCourse (Asked call) (.ok ()) events) :
    ∃ doc, .called call (.ok doc) ∈ events := by
  obtain ⟨reply, htried, hresult⟩ := h
  cases reply with
  | ok doc => exact ⟨doc, htried.called_mem⟩
  | error error => exact nomatch hresult

theorem TakeBackCourse.guarded (h : TakeBackCourse id token result events) :
    Event.Guarded (fun before e => e.ToCentral →
      ∃ doc, .called (.store .localSide (.delete .item id none) token) (.ok doc) ∈ before)
        events := by
  have hlocal : ∀ {result : Except OnboardError Unit} {events : List Event},
      PhaseCourse (Asked (.store .localSide (.delete .item id none) token)) result events →
      ∀ e ∈ events, ¬ e.ToCentral := by
    intro result events h e he hcentral
    obtain ⟨reply, rfl⟩ := h.asked he (Event.isCall_of_toCentral hcentral)
    exact hcentral
  have hbehind : ∀ {first second : List Event},
      PhaseCourse (Asked (.store .localSide (.delete .item id none) token)) (.ok ()) first →
      Event.Guarded (fun before e => e.ToCentral →
        ∃ doc, .called (.store .localSide (.delete .item id none) token) (.ok doc) ∈ before)
          (first ++ second) := by
    intro first second hfirst
    obtain ⟨doc, hmem⟩ := hfirst.called_mem
    refine Event.Guarded.append
      (Event.guarded_of_forall fun e he _ hcentral => (hlocal hfirst e he hcentral).elim) ?_
    exact Event.guarded_of_forall fun e _ before _ => ⟨doc, List.mem_append_left _ hmem⟩
  cases h with
  | kept hkept =>
    exact Event.guarded_of_forall fun e he _ hcentral => (hlocal hkept e he hcentral).elim
  | unminted hgone => exact hbehind hgone
  | passed hgone hcentral => exact hbehind hgone

theorem Course.takenBack {repaired : Bool}
    (h : (RepairTask.rollback id token).Course repaired events) :
    Event.Guarded (TakenBack (.rollback id token)) events := by
  have hverdict : ∀ {result : Except OnboardError Unit} {front : List Event},
      Event.Guarded (fun before => TakenBack (.rollback id token) (front ++ before))
        ((RepairTask.rollback id token).verdict result) := by
    intro result front
    refine Event.guarded_of_forall fun e he _ hcentral => ?_
    exact absurd ((isCall_verdict he).symm.trans (Event.isCall_of_toCentral hcentral))
      Bool.false_ne_true
  cases h with
  | unnamed hid => exact nomatch hid
  | worked hid hwork =>
    obtain rfl := Option.some.inj hid
    have hguarded := TakeBackCourse.guarded hwork
    refine Event.Guarded.append (hguarded.mono fun before e _ hp hcentral => ?_) hverdict
    obtain ⟨doc, hmem⟩ := hp hcentral
    exact ⟨id, doc, rfl, hmem⟩

end RepairTask

namespace Workflow

variable {f : Workflow} {events work : List Event} {tasks : List RepairTask} {task : RepairTask}
  {id : String} {e : Event}

theorem mem_mirror {central : Request} {admin : Token}
    (h : task ∈ centralRepair f.kind f.operation central admin) :
    task.action = .deleteLocal ∧ f.operation = .create ∨
      task.action = .recreateLocalFromCentral ∧ f.operation = .delete := by
  cases f with
  | onboard kind request => exact Or.inl ⟨by rw [List.mem_singleton.mp h], rfl⟩
  | onboardItem body token => exact Or.inl ⟨by rw [List.mem_singleton.mp h], rfl⟩
  | offboard kind request => exact Or.inr ⟨by rw [List.mem_singleton.mp h], rfl⟩
  | offboardItem id token => exact Or.inr ⟨by rw [List.mem_singleton.mp h], rfl⟩

/-- A repair reaches for the central side only behind a local write of the call. -/
theorem HandedOver.written (h : f.HandedOver events tasks) (htask : task ∈ tasks)
    (hreach : task.Reaches id work e) (hcentral : e.ToCentral) :
    Written f.kind f.operation f.request events := by
  cases h with
  | nothing => exact absurd htask List.not_mem_nil
  | mirror hwritten => exact hwritten
  | rollback hf hwritten => exact hwritten
  | restore hf hgone hkept hwrites hsub =>
    rw [List.mem_singleton.mp htask] at hreach
    rcases hreach with ⟨reply, rfl⟩ | ⟨url, reply, rfl⟩
    · exact hcentral.elim
    · exact hcentral.elim

/-- The repair of an item that was to be deleted deletes nothing. -/
theorem HandedOver.not_deletes {item : String} {token : Token}
    (h : (offboardItem item token).HandedOver events tasks) (htask : task ∈ tasks)
    (hreach : task.Reaches id work e) : ¬ e.Deletes := by
  intro hdeletes
  cases h with
  | nothing => exact absurd htask List.not_mem_nil
  | mirror hwritten =>
    rw [List.mem_singleton.mp htask] at hreach
    rcases hreach with ⟨reply, rfl⟩ | ⟨admin, reply, -, rfl⟩ | ⟨entity, reply, rfl⟩
    · exact hdeletes
    · exact hdeletes
    · exact hdeletes
  | rollback hf hwritten => exact nomatch hf
  | restore hf hgone hkept hwrites hsub =>
    rw [List.mem_singleton.mp htask] at hreach
    rcases hreach with ⟨reply, rfl⟩ | ⟨url, reply, rfl⟩
    · exact hdeletes
    · exact hdeletes

theorem identifier_itemRequest {item : String} {token : Token}
    (h : (Onboarding.itemRequest item token).identifier .item = some id) : item = id := by
  by_cases hitem : item = ""
  · subst hitem
    exact nomatch h
  · exact Option.some.inj ((Request.identifier_forId hitem none token).symm.trans h)

theorem HandedOver.eq_rollback (h : f.HandedOver events tasks) (htask : task ∈ tasks)
    (haction : task.action = .rollbackItem) :
    ∃ id token, task = .rollback id token ∧ tasks = [.rollback id token] := by
  cases h with
  | nothing => exact absurd htask List.not_mem_nil
  | mirror hwritten =>
    rcases mem_mirror htask with ⟨h, -⟩ | ⟨h, -⟩
    · exact nomatch haction.symm.trans h
    · exact nomatch haction.symm.trans h
  | rollback hf hwritten => exact ⟨_, _, List.mem_singleton.mp htask, rfl⟩
  | restore hf hgone hkept hwrites hsub =>
    rw [List.mem_singleton.mp htask] at haction
    exact nomatch haction

theorem HandedOver.restored {url : String} {token : Token} {reply : Reply}
    (h : f.HandedOver events tasks) (htask : task ∈ tasks) (hid : task.id = some id)
    {item : String} (hreach : task.Reaches id work (.called (.register url item token) reply)) :
    f = .offboardItem item token ∧
      (∃ url doc, .called (.deregister url item token) (.ok doc) ∈ events) ∧
      ∃ error, .called (.store .localSide (.delete .item item none) token) (.error error) ∈
        events := by
  cases h with
  | nothing => exact absurd htask List.not_mem_nil
  | @mirror central admin hwritten =>
    have hcopies : ∀ mode known,
        ¬ task.Copies id mode known (.called (.register url item token) reply) := by
      rintro mode known (⟨_, heq⟩ | ⟨_, _, -, heq⟩ | ⟨_, _, heq⟩)
      · exact nomatch heq
      · exact nomatch heq
      · exact nomatch heq
    unfold RepairTask.Reaches at hreach
    rcases mem_mirror htask with ⟨haction, -⟩ | ⟨haction, -⟩
    · rw [haction] at hreach
      obtain ⟨_, heq⟩ := hreach
      exact nomatch heq
    · rw [haction] at hreach
      exact (hcopies _ _ hreach).elim
  | rollback hf hwritten =>
    rw [List.mem_singleton.mp htask] at hreach
    rcases hreach with ⟨_, heq⟩ | ⟨_, heq⟩ | ⟨_, _, -, heq⟩
    · exact nomatch heq
    · exact nomatch heq
    · exact nomatch heq
  | restore hf hgone hkept hwrites hsub =>
    rw [List.mem_singleton.mp htask] at hreach hid
    rcases hreach with ⟨_, heq⟩ | ⟨_, _, heq⟩
    · exact nomatch heq
    · cases heq
      obtain rfl := identifier_itemRequest hid
      refine ⟨hf, hgone, ?_⟩
      cases hkept with
      | unnamed hnone =>
        obtain ⟨-, hnone⟩ := StoreCall.ofRequest_eq_none_iff.mp hnone
        exact absurd (hnone.symm.trans hid) (Option.some_ne_none _).symm
      | @failed call error hcall =>
        rw [StoreCall.ofRequest, show Request.identifier _ .item = _ from hid] at hcall
        obtain rfl := Option.some.inj hcall
        exact ⟨error, hsub List.mem_cons_self⟩

theorem mem_localWrites {call : StoreCall} {reply : Reply}
    (hcall : StoreCall.ofRequest f.kind f.operation f.request = some call)
    (hmem : .called (.store .localSide call f.request.token) reply ∈ events) :
    reply ∈ Event.localWrites events := by
  have hwrite : (Event.called (.store .localSide call f.request.token) reply).localWrite? =
      some reply := by
    have hdelete : ∀ {kind : EntityKind} {request : Request},
        StoreCall.ofRequest kind .delete request = some call →
        ∃ id, call = .delete kind id request.path := by
      intro kind request h
      obtain ⟨id, -, rfl⟩ := Option.map_eq_some_iff.mp h
      exact ⟨id, rfl⟩
    cases f with
    | onboard kind request =>
      obtain rfl := Option.some.inj hcall
      rfl
    | onboardItem body token =>
      obtain rfl := Option.some.inj hcall
      rfl
    | offboard kind request =>
      obtain ⟨id, rfl⟩ := hdelete hcall
      rfl
    | offboardItem id token =>
      obtain ⟨id, rfl⟩ := hdelete hcall
      rfl
  exact List.mem_filterMap.mpr ⟨_, hmem, hwrite⟩

/-- The local catalogue is asked to write at most once, so that a refusal is its last word. -/
theorem CallOrder.not_written {call : StoreCall} {error : StoreError} (h : f.CallOrder events)
    (hcall : StoreCall.ofRequest f.kind f.operation f.request = some call)
    (hmem : .called (.store .localSide call f.request.token) (.error error) ∈ events) :
    ¬ Written f.kind f.operation f.request events := by
  rintro ⟨call', doc, hcall', hmem'⟩
  have herror := mem_localWrites hcall hmem
  have hok := mem_localWrites hcall' hmem'
  have honce := h.writes_once
  cases hwrites : Event.localWrites events with
  | nil =>
    rw [hwrites] at hok
    exact absurd hok List.not_mem_nil
  | cons only rest =>
    rw [hwrites, List.length_cons] at honce
    have hrest : rest = [] := List.length_eq_zero_iff.mp (by omega)
    rw [hwrites, hrest, List.mem_singleton] at hok herror
    exact nomatch herror.trans hok.symm

end Workflow

variable {σ : Type} {v : Verb} {f : Workflow}

/-- Every verb that onboards or offboards keeps to the order of the phases. -/
theorem settle_phaseOrder (hv : v.workflow? = some f) (p : RetryPolicy) (w : World σ) (s : σ) :
    PhaseOrder f (v.settle p w s) := by
  have horder : f.CallOrder (v.settle p w s).call.events :=
    (Workflow.takes_perform hv p w s).1.callOrder
  have hunwritten : ¬ Written f.kind f.operation f.request (v.settle p w s).call.events →
      ∀ e ∈ (v.settle p w s).events, ¬ e.ToCentral := by
    intro hnot e he hcentral
    -- A call to the central side belongs to the verb or to its repair, and either needs the write.
    rcases List.mem_append.mp he with he | he
    · obtain ⟨before, after, hsplit⟩ := List.append_of_mem he
      obtain ⟨call, doc, hcall, hmem, -⟩ := horder.opened before e after hsplit hcentral
      refine hnot ⟨call, doc, hcall, ?_⟩
      rw [hsplit]
      exact List.mem_append_left _ hmem
    · obtain ⟨task, htask, id, work, hid, hreach, -⟩ :=
        RepairTask.reaches_of_mem_repairs he (Event.isCall_of_toCentral hcentral)
      exact hnot (horder.tasks.written htask hreach hcentral)
  constructor
  · exact horder.opened
  · exact hunwritten
  · exact fun call error hcall hmem => hunwritten (horder.not_written hcall hmem)
  · exact horder.announced
  · rintro id token rfl
    refine Event.Guarded.append (horder.released id token rfl) ?_
    refine Event.guarded_of_forall fun e he _ hdeletes => ?_
    obtain ⟨task, htask, id', work, hid, hreach, -⟩ :=
      RepairTask.reaches_of_mem_repairs he (Event.isCall_of_deletes hdeletes)
    exact (horder.tasks.not_deletes htask hreach hdeletes).elim
  · exact horder.hands_over_last
  · intro task htask haction
    obtain ⟨id, token, rfl, hone⟩ := horder.tasks.eq_rollback htask haction
    have hrepairs : (v.settle p w s).repairs = _ := Activity.settle_of_single hone
    rw [hrepairs]
    exact (RepairTask.takes_run p _ w _).1.takenBack
  · intro url id token reply hmem
    obtain ⟨task, htask, id', work, hid, hreach, -⟩ := RepairTask.reaches_of_mem_repairs hmem rfl
    exact horder.tasks.restored htask hid hreach

/-- An item stays in the local catalogue when its adapter is gone, so that its adapter is
registered again; and an item that cannot be registered is taken back. -/
theorem settle_phaseOrder_restored_rollback :
    let server := Document.ofMembers [("resourceServerRegURL", .string "http://rs")]
    let down : Reply := .error (.status 500 "down")
    let related := Script.empty.addCalls (.related .localSide) [] (some (.ok server))
    let kept := (Verb.offboardItem "aqm" ⟨"token"⟩).settle .standard Script.world
      (related.addCalls (.delete .localSide) [] (some down))
    let taken := (Verb.onboardItem (.ofMembers [("id", .string "aqm")]) ⟨"token"⟩).settle .standard
      Script.world (related.addCalls .register [] (some down))
    (kept.repairs.events.any fun e => match e with
      | .called (.register _ _ _) (.ok _) => true
      | _ => false) = true ∧ PhaseOrder (.offboardItem "aqm" ⟨"token"⟩) kept ∧
    (taken.repairs.events.any fun e => match e with
      | .called (.store .centralSide (.delete _ _ _) _) (.ok _) => true
      | _ => false) = true ∧
    PhaseOrder (.onboardItem (.ofMembers [("id", .string "aqm")]) ⟨"token"⟩) taken := by
  intro server down related kept taken
  refine ⟨?_, settle_phaseOrder rfl _ _ _, ?_, settle_phaseOrder rfl _ _ _⟩
  · decide +kernel
  · decide +kernel

end TwinCatalogue
