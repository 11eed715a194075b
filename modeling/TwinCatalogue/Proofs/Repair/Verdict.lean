import TwinCatalogue.Proofs.Repair.Course

/-! The record at the end of a repair that has failed. The work on a repair leaves no such record
itself, and never fails for want of an identifier: that is reported only of a task that carries
none. -/

namespace TwinCatalogue

theorem OnboardError.ofTerminal_ne_missingIdentifier (error : StoreError) (kind : EntityKind) :
    ofTerminal error ≠ .missingIdentifier kind := by
  cases error with
  | status code message => exact OnboardError.noConfusion
  | _ => exact OnboardError.noConfusion

namespace RepairTask

/-- Work that consists of calls and of what retrying adds to them, and that knows its entity. -/
structure Regular (result : Except OnboardError Unit) (events : List Event) : Prop where
  plain : ∀ e ∈ events, e.isCall = true ∨ e.isPause = true
  named : ∀ kind, result ≠ .error (.missingIdentifier kind)

variable {task : RepairTask} {id : String} {token : Token} {result : Except OnboardError Unit}
  {events first second : List Event}

theorem Regular.prepend (h : Regular result second) (hfirst : ∀ e ∈ first, e.isCall = true) :
    Regular result (first ++ second) where
  plain e he := by
    rcases List.mem_append.mp he with he | he
    · exact Or.inl (hfirst e he)
    · exact h.plain e he
  named := h.named

theorem Regular.cons {e : Event} (h : Regular result second) (he : e.isCall = true) :
    Regular result (e :: second) :=
  h.prepend (List.forall_mem_singleton.mpr he)

theorem Regular.append {result' : Except OnboardError Unit} (h : Regular result first)
    (h' : Regular result' second) : Regular result' (first ++ second) where
  plain e he := by
    rcases List.mem_append.mp he with he | he
    · exact h.plain e he
    · exact h'.plain e he
  named := h'.named

theorem regular_calls (hcalls : ∀ e ∈ events, e.isCall = true)
    (hnamed : ∀ kind, result ≠ .error (.missingIdentifier kind)) : Regular result events :=
  ⟨fun e he => Or.inl (hcalls e he), hnamed⟩

theorem PhaseCourse.regular {T : Reply → List Event → Prop} (h : PhaseCourse T result events)
    (hT : ∀ reply events, T reply events → ∀ e ∈ events, e.isCall = true) :
    Regular result events := by
  obtain ⟨reply, htried, rfl⟩ := h
  constructor
  · exact htried.forall_mem (fun e he => Or.inr he)
      (fun error events h e he => Or.inl (hT _ events h e he))
      fun events h e he => Or.inl (hT _ events h e he)
  · intro kind
    cases reply with
    | ok doc => exact fun heq => nomatch heq
    | error error => exact fun heq => nomatch heq

theorem PhaseCourse.regular_asked {call : Call} (h : PhaseCourse (Asked call) result events) :
    Regular result events := by
  refine h.regular fun reply events hasked e he => ?_
  rw [hasked] at he
  rw [List.mem_singleton.mp he]
  rfl

theorem PhaseCourse.regular_copy {mode : CopyMode} {admin : Token}
    (h : PhaseCourse (CopyOnceCourse task id mode admin) result events) :
    Regular result events := by
  refine h.regular fun reply events hcopy => ?_
  cases hcopy <;> simp [Event.isCall]

theorem CopyCourse.regular {mode : CopyMode} (h : CopyCourse task id mode result events) :
    Regular result events := by
  cases h with
  | carried hadmin hcopy => exact hcopy.regular_copy
  | unminted => exact regular_calls (by simp [Event.isCall]) fun kind heq => nomatch heq
  | minted hcopy => exact hcopy.regular_copy.cons rfl

theorem isCall_of_resolve {found : Except OnboardError String}
    (h : Adapter.ResolveCourse id token found events) : ∀ e ∈ events, e.isCall = true := by
  intro e he
  obtain ⟨reply, rfl⟩ := h.calls he
  rfl

theorem ReregisterCourse.regular (h : ReregisterCourse id token result events) :
    Regular result events := by
  cases h with
  | unresolved hresolve =>
    refine regular_calls (isCall_of_resolve hresolve) fun kind heq => ?_
    cases hresolve with
    | failed error =>
      exact OnboardError.ofTerminal_ne_missingIdentifier error kind (Except.error.inj heq)
    | nowhere hurl => exact nomatch heq
  | tried hresolve htried => exact htried.regular_asked.prepend (isCall_of_resolve hresolve)

theorem TakeBackCourse.regular (h : TakeBackCourse id token result events) :
    Regular result events := by
  cases h with
  | kept hlocal => exact hlocal.regular_asked
  | unminted hlocal =>
    exact hlocal.regular_asked.append
      (regular_calls (by simp [Event.isCall]) fun kind heq => nomatch heq)
  | passed hlocal hcentral =>
    exact hlocal.regular_asked.append
      (hcentral.regular_asked.cons rfl)

theorem WorkCourse.regular (h : task.WorkCourse id result events) : Regular result events := by
  unfold WorkCourse at h
  cases haction : task.action with
  | deleteLocal =>
    rw [haction] at h
    exact PhaseCourse.regular_asked h
  | restoreLocalFromCentral =>
    rw [haction] at h
    exact CopyCourse.regular h
  | recreateLocalFromCentral =>
    rw [haction] at h
    exact CopyCourse.regular h
  | recreateAdapter =>
    rw [haction] at h
    exact ReregisterCourse.regular h
  | rollbackItem =>
    rw [haction] at h
    exact TakeBackCourse.regular h

/-- Only a task that carries no identifier is reported for want of one. -/
theorem Course.id_eq_none {repaired : Bool} {reported : RepairTask} {kind : EntityKind}
    (h : task.Course repaired events)
    (hmem : .logged (.inconsistent reported (.missingIdentifier kind)) ∈ events) :
    task.id = none := by
  cases h with
  | unnamed hid => exact hid
  | @worked id result work hid hwork =>
    have hregular := hwork.regular
    rcases List.mem_append.mp hmem with hmem | hmem
    · rcases hregular.plain _ hmem with hcall | hpause
      · exact nomatch hcall
      · exact nomatch hpause
    · rcases result with error | _
      · simp only [verdict, List.mem_cons, Event.logged.injEq, LogEntry.inconsistent.injEq,
          reduceCtorEq, List.not_mem_nil, or_false] at hmem
        exact absurd (congrArg _ hmem.2.symm) (hregular.named kind)
      · simp [verdict] at hmem

end RepairTask

end TwinCatalogue
