import TwinCatalogue.Proofs.Activity.Course
import TwinCatalogue.Proofs.Dispatch.Central

/-! The courses that an operation on a single catalogue can take. -/

namespace TwinCatalogue

variable {σ : Type}

inductive LocalCourse (kind : EntityKind) (operation : Operation) (request : Request) :
    Except OnboardError Document → List Event → Prop
  | unnamed (hcall : StoreCall.ofRequest kind operation request = none) :
      LocalCourse kind operation request (.error (.missingIdentifier kind)) []
  | failed {call : StoreCall} {error : StoreError}
      (hcall : StoreCall.ofRequest kind operation request = some call) :
      LocalCourse kind operation request (.error (.store error))
        [.called (.store .localSide call request.token) (.error error),
          .logged (.localCallFailed error)]
  | done {call : StoreCall} {doc : Document}
      (hcall : StoreCall.ofRequest kind operation request = some call) :
      LocalCourse kind operation request (.ok doc)
        [.called (.store .localSide call request.token) (.ok doc)]

inductive CentralCourse (kind : EntityKind) (operation : Operation) (request : Request) :
    Except OnboardError Document → List Event → Prop
  | unnamed (hcall : StoreCall.ofRequest kind operation request = none) :
      CentralCourse kind operation request (.error (.missingIdentifier kind)) []
  | unminted {call : StoreCall} {error : TokenError}
      (hcall : StoreCall.ofRequest kind operation request = some call) :
      CentralCourse kind operation request (.error (.token error))
        [.minted (.error error), .logged (.mintFailed error)]
  | gaveUp {call : StoreCall} {admin : Token} {error : StoreError} {attempts : Nat}
      {tried : List Event} (hcall : StoreCall.ofRequest kind operation request = some call)
      (htried : Retried (Asked (.store .centralSide call admin)) (.error error) tried) :
      CentralCourse kind operation request (.error (.ofTerminal error))
        (.minted (.ok admin) ::
          (tried ++ giveUpEvents kind operation request admin error attempts))
  | done {call : StoreCall} {admin : Token} {doc : Document} {tried : List Event}
      (hcall : StoreCall.ofRequest kind operation request = some call)
      (htried : Retried (Asked (.store .centralSide call admin)) (.ok doc) tried) :
      CentralCourse kind operation request (.ok doc) (.minted (.ok admin) :: tried)

section

variable {kind : EntityKind} {operation : Operation} {request : Request}
  {result : Except OnboardError Document} {events : List Event} {e : Event}

theorem LocalCourse.calls (h : LocalCourse kind operation request result events) (he : e ∈ events)
    (hcall : e.isCall = true) : ∃ call reply, StoreCall.ofRequest kind operation request = some call ∧
      e = .called (.store .localSide call request.token) reply := by
  cases h with
  | unnamed => exact absurd he List.not_mem_nil
  | failed hrequest =>
    rcases List.mem_cons.mp he with rfl | he
    · exact ⟨_, _, hrequest, rfl⟩
    · rw [List.mem_singleton.mp he] at hcall
      exact nomatch hcall
  | done hrequest => exact ⟨_, _, hrequest, List.mem_singleton.mp he⟩

theorem LocalCourse.called_mem {doc : Document}
    (h : LocalCourse kind operation request (.ok doc) events) :
    ∃ call, StoreCall.ofRequest kind operation request = some call ∧
      .called (.store .localSide call request.token) (.ok doc) ∈ events := by
  cases h with
  | done hcall => exact ⟨_, hcall, List.mem_singleton_self _⟩

theorem LocalCourse.tasks {result : Except OnboardError Document}
    (h : LocalCourse kind operation request result events) : Event.tasks events = [] := by
  cases h <;> rfl

theorem isCall_giveUpEvents {admin : Token} {error : StoreError} {attempts : Nat}
    (he : e ∈ giveUpEvents kind operation request admin error attempts) : e.isCall = false := by
  have hnone := List.filter_eq_nil_iff.mp
    (filter_isCall_giveUpEvents kind operation request admin error attempts) e he
  exact Bool.not_eq_true _ ▸ hnone

/-- A central operation mints a token and sends one call with it, however often. -/
theorem CentralCourse.calls (h : CentralCourse kind operation request result events)
    (he : e ∈ events) (hcall : e.isCall = true) : (∃ reply, e = .minted reply) ∨
      ∃ call admin reply, StoreCall.ofRequest kind operation request = some call ∧
        .minted (.ok admin) ∈ events ∧ e = .called (.store .centralSide call admin) reply := by
  cases h with
  | unnamed => exact absurd he List.not_mem_nil
  | unminted hrequest =>
    rcases List.mem_cons.mp he with rfl | he
    · exact Or.inl ⟨_, rfl⟩
    · rw [List.mem_singleton.mp he] at hcall
      exact nomatch hcall
  | gaveUp hrequest htried =>
    rcases List.mem_cons.mp he with rfl | he
    · exact Or.inl ⟨_, rfl⟩
    · rcases List.mem_append.mp he with he | he
      · obtain ⟨reply, rfl⟩ := htried.calls he hcall
        exact Or.inr ⟨_, _, reply, hrequest, List.mem_cons_self, rfl⟩
      · exact absurd ((isCall_giveUpEvents he).symm.trans hcall) Bool.false_ne_true
  | done hrequest htried =>
    rcases List.mem_cons.mp he with rfl | he
    · exact Or.inl ⟨_, rfl⟩
    · obtain ⟨reply, rfl⟩ := htried.calls he hcall
      exact Or.inr ⟨_, _, reply, hrequest, List.mem_cons_self, rfl⟩

theorem CentralCourse.tasks_ok {doc : Document}
    (h : CentralCourse kind operation request (.ok doc) events) : Event.tasks events = [] := by
  cases h with
  | done hcall htried => exact htried.call_tasks

/-- The repair of a central operation carries the token that was minted for it. -/
theorem CentralCourse.tasks (h : CentralCourse kind operation request result events) :
    Event.tasks events = [] ∨ ∃ admin, .minted (.ok admin) ∈ events ∧
      Event.tasks events = centralRepair kind operation request admin := by
  cases h with
  | unnamed => exact Or.inl rfl
  | unminted => exact Or.inl rfl
  | @gaveUp call admin error attempts tried hcall htried =>
    refine Or.inr ⟨admin, List.mem_cons_self, ?_⟩
    change Event.tasks (tried ++ _) = _
    rw [Event.tasks_append, htried.call_tasks, tasks_giveUpEvents]
    rfl
  | done hcall htried => exact Or.inl (CentralCourse.done hcall htried).tasks_ok

end

theorem takes_executeLocal {kind : EntityKind} {operation : Operation} {request : Request}
    {call : StoreCall} (hcall : StoreCall.ofRequest kind operation request = some call) :
    (executeLocal call request.token : Activity σ _).Takes
      (LocalCourse kind operation request) := by
  refine Activity.takes_call.bind fun reply events h => ?_
  rw [h]
  cases reply with
  | ok doc => exact Activity.takes_pure (.done hcall)
  | error error =>
    refine (Activity.takes_log _).bind fun _ rest hlog => Activity.takes_pure ?_
    rw [hlog]
    exact .failed hcall

theorem takes_giveUp (kind : EntityKind) (operation : Operation) (request : Request)
    (admin : Token) (error : StoreError) (attempts : Nat) :
    (giveUp kind operation request admin error attempts : Activity σ _).Takes fun result events =>
      result = .error (.ofTerminal error) ∧
        events = giveUpEvents kind operation request admin error attempts := by
  intro w s
  rw [giveUp_run]
  refine ⟨⟨rfl, rfl⟩, ?_⟩
  cases operation with
  | get => exact .noted rfl (.noted rfl (.refl s))
  | _ => exact .noted rfl (.noted rfl (.noted rfl (.noted rfl (.noted rfl (.refl s)))))

theorem takes_executeCentral {kind : EntityKind} {operation : Operation} {request : Request}
    {call : StoreCall} (hcall : StoreCall.ofRequest kind operation request = some call)
    (p : RetryPolicy) : (executeCentral p kind operation request call : Activity σ _).Takes
      (CentralCourse kind operation request) := by
  refine Activity.takes_mint.bind fun reply events h => ?_
  rw [h]
  cases reply with
  | error error =>
    refine (Activity.takes_log _).bind fun _ rest hlog => Activity.takes_pure ?_
    rw [hlog]
    exact .unminted hcall
  | ok admin =>
    refine (Activity.takes_retrying _).bind fun outcome tried htried => ?_
    have hgive : ∀ error attempts, Retried (Asked (.store .centralSide call admin)) (.error error)
        tried → (giveUp kind operation request admin error attempts : Activity σ _).Takes
          fun result rest => CentralCourse kind operation request result
            ([.minted (.ok admin)] ++ (tried ++ rest)) := by
      intro error attempts htried
      refine (takes_giveUp _ _ _ _ _ _).mono ?_
      rintro _ _ ⟨rfl, rfl⟩
      exact .gaveUp hcall htried
    cases outcome with
    | success doc =>
      refine Activity.takes_pure ?_
      rw [List.append_nil]
      exact .done hcall htried
    | exhausted error attempts => exact hgive error attempts htried
    | aborted error attempts => exact hgive error attempts htried

theorem takes_executeOn_local (p : RetryPolicy) (kind : EntityKind) (operation : Operation)
    (request : Request) : (executeOn p kind operation request .localSide : Activity σ _).Takes
      (LocalCourse kind operation request) := by
  unfold executeOn
  split
  · exact Activity.takes_pure (.unnamed ‹_›)
  · exact takes_executeLocal ‹_›

theorem takes_executeOn_central (p : RetryPolicy) (kind : EntityKind) (operation : Operation)
    (request : Request) : (executeOn p kind operation request .centralSide : Activity σ _).Takes
      (CentralCourse kind operation request) := by
  unfold executeOn
  split
  · exact Activity.takes_pure (.unnamed ‹_›)
  · exact takes_executeCentral ‹_› p

end TwinCatalogue
