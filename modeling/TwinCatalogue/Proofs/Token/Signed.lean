import TwinCatalogue.Proofs.Onboarding.Workflow
import TwinCatalogue.Proofs.Repair.Course
import TwinCatalogue.Proofs.Token.Anonymous

/-! Which token a call carries: the caller's at the local catalogue and at the resource servers, and
at the central catalogue one that was minted in the same step. -/

namespace TwinCatalogue

namespace Event

/-- An event among all `events` of a step of the caller with a given token. A task that is handed
over carries the tokens for the calls of its repair. -/
def Signed (caller : Token) (events : List Event) : Event → Prop
  | called (.store .localSide _ token) _ => token = caller
  | called (.store .centralSide _ token) _ => minted (.ok token) ∈ events
  | called (.register _ _ token) _ => token = caller
  | called (.deregister _ _ token) _ => token = caller
  | dispatched task => task.token = caller ∧
    ∀ admin, task.adminToken = some admin → minted (.ok admin) ∈ events
  | _ => True

def AllSigned (caller : Token) (events : List Event) : Prop :=
  ∀ e ∈ events, e.Signed caller events

variable {caller : Token} {events first second : List Event}

theorem Signed.mono {e : Event} (h : e.Signed caller first) (hsub : first ⊆ second) :
    e.Signed caller second := by
  cases e with
  | called call reply =>
    cases call with
    | store side call token =>
      cases side with
      | localSide => exact h
      | centralSide => exact hsub h
    | register url id token => exact h
    | deregister url id token => exact h
  | dispatched task => exact ⟨h.1, fun admin hadmin => hsub (h.2 admin hadmin)⟩
  | _ => trivial

theorem AllSigned.append (h : AllSigned caller first) (h' : AllSigned caller second) :
    AllSigned caller (first ++ second) := by
  intro e he
  rcases List.mem_append.mp he with he | he
  · exact (h e he).mono (List.subset_append_left _ _)
  · exact (h' e he).mono (List.subset_append_right _ _)

/-- It is enough to look at the calls and at the tasks. -/
theorem allSigned_of_calls
    (hcalls : ∀ e ∈ events, e.isCall = true → e.Signed caller events)
    (htasks : ∀ task ∈ tasks events, task.token = caller ∧
      ∀ admin, task.adminToken = some admin → minted (.ok admin) ∈ events) :
    AllSigned caller events := by
  intro e he
  cases e with
  | called call reply => exact hcalls _ he rfl
  | dispatched task => exact htasks task (List.mem_filterMap.mpr ⟨_, he, rfl⟩)
  | _ => trivial

end Event

section

variable {kind : EntityKind} {operation : Operation} {request : Request}
  {result : Except OnboardError Document} {events : List Event}

theorem LocalCourse.signed (h : LocalCourse kind operation request result events) :
    Event.AllSigned request.token events := by
  refine Event.allSigned_of_calls (fun e he hcall => ?_) fun task htask => ?_
  · obtain ⟨call, reply, -, rfl⟩ := h.calls he hcall
    rfl
  · rw [h.tasks] at htask
    exact absurd htask List.not_mem_nil

theorem mem_centralRepair {admin : Token} {task : RepairTask}
    (h : task ∈ centralRepair kind operation request admin) :
    task.token = request.token ∧ task.adminToken = some admin := by
  cases operation with
  | get => exact absurd h List.not_mem_nil
  | _ =>
    obtain rfl := List.mem_singleton.mp h
    exact ⟨rfl, rfl⟩

theorem CentralCourse.signed (h : CentralCourse kind operation request result events) :
    Event.AllSigned request.token events := by
  refine Event.allSigned_of_calls (fun e he hcall => ?_) fun task htask => ?_
  · rcases h.calls he hcall with ⟨reply, rfl⟩ | ⟨call, admin, reply, -, hminted, rfl⟩
    · trivial
    · exact hminted
  · rcases h.tasks with hnone | ⟨admin, hminted, hone⟩
    · rw [hnone] at htask
      exact absurd htask List.not_mem_nil
    · rw [hone] at htask
      obtain ⟨htoken, hadmin⟩ := mem_centralRepair htask
      refine ⟨htoken, fun admin' hadmin' => ?_⟩
      obtain rfl := Option.some.inj (hadmin.symm.trans hadmin')
      exact hminted

end

section

variable {id : String} {token : Token} {result : Except OnboardError Document}
  {events : List Event}

theorem Adapter.CreateCourse.signed (h : CreateCourse id token result events) :
    Event.AllSigned token events := by
  refine Event.allSigned_of_calls (fun e he hcall => ?_) fun task htask => ?_
  · rcases h.calls he hcall with ⟨reply, rfl⟩ | ⟨url, reply, rfl⟩
    · rfl
    · rfl
  · rcases h.tasks with hnone | hone
    · rw [hnone] at htask
      exact absurd htask List.not_mem_nil
    · rw [hone] at htask
      obtain rfl := List.mem_singleton.mp htask
      exact ⟨rfl, fun admin hadmin => nomatch hadmin⟩

theorem Adapter.DeleteCourse.signed (h : DeleteCourse id token result events) :
    Event.AllSigned token events := by
  refine Event.allSigned_of_calls (fun e he hcall => ?_) fun task htask => ?_
  · rcases h.calls he hcall with ⟨reply, rfl⟩ | ⟨url, reply, rfl⟩
    · rfl
    · rfl
  · rw [h.tasks] at htask
    exact absurd htask List.not_mem_nil

end

namespace Onboarding

variable {kind : EntityKind} {request : Request} {events : List Event}

theorem centralRequest_token {created : Document} {central : Request} {id : String}
    (h : centralRequest kind request created = some (central, id)) :
    central.token = request.token := by
  unfold centralRequest at h
  split at h
  · rw [← (Prod.mk.inj (Option.some.inj h)).1]
  · obtain ⟨found, -, heq⟩ := Option.map_eq_some_iff.mp h
    rw [← (Prod.mk.inj heq).1]
    rfl

theorem signed_log {caller : Token} {entry : LogEntry} {rest : List Event}
    (h : Event.AllSigned caller rest) : Event.AllSigned caller (.logged entry :: rest) := by
  intro e he
  rcases List.mem_cons.mp he with rfl | he
  · trivial
  · exact (h e he).mono (List.subset_cons_self _ _)

theorem CreateCourse.signed {result : Except OnboardError (Document × String)}
    (h : CreateCourse kind request result events) : Event.AllSigned request.token events := by
  cases h with
  | refused hlocal => exact hlocal.signed
  | unnamed hlocal hcentral => exact hlocal.signed
  | failed hlocal hcentral hwrite =>
    have hsecond := hwrite.signed
    rw [centralRequest_token hcentral] at hsecond
    exact hlocal.signed.append (signed_log hsecond)
  | done hlocal hcentral hwrite =>
    have hsecond := hwrite.signed
    rw [centralRequest_token hcentral] at hsecond
    exact hlocal.signed.append (signed_log hsecond)

theorem signed_restoreEvents (request : Request) :
    Event.AllSigned request.token (restoreEvents request) := by
  refine Event.allSigned_of_calls (fun e he hcall => ?_) fun task htask => ?_
  · simp only [restoreEvents, List.mem_cons, List.not_mem_nil, or_false] at he
    rcases he with rfl | rfl | rfl | rfl <;> exact nomatch hcall
  · obtain rfl := List.mem_singleton.mp htask
    exact ⟨rfl, fun admin hadmin => nomatch hadmin⟩

end Onboarding

theorem Workflow.Course.signed {f : Workflow} {result : Except OnboardError Document}
    {events : List Event} (h : f.Course result events) :
    Event.AllSigned f.request.token events := by
  cases f with
  | onboard kind request =>
    obtain ⟨created, hcreate, -⟩ := h
    exact hcreate.signed
  | onboardItem body token =>
    cases h with
    | unwritten hwrite => exact hwrite.signed
    | written hwrite hadapter => exact hwrite.signed.append hadapter.signed
    | unregistered hwrite hadapter => exact hwrite.signed.append hadapter.signed
  | offboard kind request =>
    cases h with
    | refused hlocal => exact hlocal.signed
    | passed hlocal hwrite => exact hlocal.signed.append hwrite.signed
  | offboardItem id token =>
    cases h with
    | kept hadapter => exact hadapter.signed
    | refused hadapter hlocal =>
      exact hadapter.signed.append
        (hlocal.signed.append (Onboarding.signed_restoreEvents _))
    | passed hadapter hlocal hwrite =>
      exact hadapter.signed.append (hlocal.signed.append hwrite.signed)

variable {σ : Type}

theorem executeOn_signed (p : RetryPolicy) (kind : EntityKind) (operation : Operation)
    (request : Request) (side : Side) (w : World σ) (s : σ) :
    Event.AllSigned request.token ((executeOn p kind operation request side).run w s).events := by
  cases side with
  | localSide => exact (takes_executeOn_local p kind operation request w s).1.signed
  | centralSide => exact (takes_executeOn_central p kind operation request w s).1.signed

theorem Workflow.request_token {v : Verb} {f : Workflow} (h : v.workflow? = some f) :
    f.request.token = v.token := by
  cases v with
  | offboard kind id path token =>
    rw [Verb.workflow?] at h
    split at h
    · rw [← Option.some.inj h]
      rfl
    · rw [← Option.some.inj h]
      rfl
  | execute kind operation request target => cases h
  | executeOn kind operation request side => cases h
  | createAdapter id token => cases h
  | deleteAdapter id token => cases h
  | _ =>
    rw [← Option.some.inj h]
    rfl

theorem Verb.perform_signed (v : Verb) (p : RetryPolicy) (w : World σ) (s : σ) :
    Event.AllSigned v.token ((v.perform p).run w s).events := by
  cases hv : v.workflow? with
  | some f =>
    rw [← Workflow.request_token hv]
    exact (Workflow.takes_perform hv p w s).1.signed
  | none =>
    cases v with
    | execute kind operation request target =>
      rw [Verb.perform, TwinCatalogue.execute]
      cases Side.parse? target with
      | none => exact fun e he => absurd he List.not_mem_nil
      | some side => exact executeOn_signed p kind operation request side w s
    | executeOn kind operation request side =>
      exact executeOn_signed p kind operation request side w s
    | createAdapter id token => exact (Adapter.takes_create p id token w s).1.signed
    | deleteAdapter id token => exact (Adapter.takes_delete p id token w s).1.signed
    | offboard kind id path token =>
      rw [Verb.workflow?] at hv
      split at hv <;> cases hv
    | _ => cases hv

namespace RepairTask

variable {task : RepairTask} {caller : Token} {id : String} {known work : List Event} {e : Event}

theorem Reaches.signed (h : task.Reaches id work e)
    (htask : (Event.dispatched task).Signed caller known) (hwork : work ⊆ known) :
    e.Signed caller known := by
  obtain ⟨htoken, hadmin⟩ := htask
  have hcopies : ∀ mode, task.Copies id mode
      (fun admin => task.adminToken = some admin ∨ .minted (.ok admin) ∈ work) e →
        e.Signed caller known := by
    rintro mode (⟨reply, rfl⟩ | ⟨admin, reply, hknown, rfl⟩ | ⟨entity, reply, rfl⟩)
    · trivial
    · rcases hknown with hcarried | hminted
      · exact hadmin admin hcarried
      · exact hwork hminted
    · exact htoken
  unfold Reaches at h
  cases haction : task.action with
  | deleteLocal =>
    rw [haction] at h
    obtain ⟨reply, rfl⟩ := h
    exact htoken
  | restoreLocalFromCentral =>
    rw [haction] at h
    exact hcopies _ h
  | recreateLocalFromCentral =>
    rw [haction] at h
    exact hcopies _ h
  | recreateAdapter =>
    rw [haction] at h
    rcases h with ⟨reply, rfl⟩ | ⟨url, reply, rfl⟩
    · exact htoken
    · exact htoken
  | rollbackItem =>
    rw [haction] at h
    rcases h with ⟨reply, rfl⟩ | ⟨reply, rfl⟩ | ⟨admin, reply, hminted, rfl⟩
    · exact htoken
    · trivial
    · exact hwork hminted

end RepairTask

/-- Every call of a step carries its token, those of the repairs included. -/
theorem Verb.settle_signed (v : Verb) (p : RetryPolicy) (w : World σ) (s : σ) :
    ∀ e ∈ (v.settle p w s).events, e.isCall = true →
      e.Signed v.token (v.settle p w s).events := by
  intro e he hcall
  have hcalls : Event.AllSigned v.token (v.settle p w s).call.events := v.perform_signed p w s
  rcases List.mem_append.mp he with he | he
  · exact (hcalls e he).mono (List.subset_append_left _ _)
  · obtain ⟨task, htask, id, work, -, hreach, hsub⟩ :=
      RepairTask.reaches_of_mem_repairs he hcall
    obtain ⟨e', he', htask'⟩ := List.mem_filterMap.mp htask
    refine hreach.signed ?_ fun e he => List.mem_append_right _ (hsub he)
    cases e' with
    | dispatched task' =>
      obtain rfl := Option.some.inj htask'
      exact (hcalls _ he').mono (List.subset_append_left _ _)
    | _ => exact nomatch htask'

end TwinCatalogue
