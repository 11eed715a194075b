import TwinCatalogue.Proofs.Onboarding.Workflow
import TwinCatalogue.Script

/-! What a workflow hands over when it fails behind a write. It is one repair, except where the
workflow stopped for want of an admin token, of a resource server or of an identifier: then it is
none. -/

namespace TwinCatalogue

namespace Event

def wrote : Event → Bool
  | called (.store _ (.create _ _) _) (.ok _) => true
  | called (.store _ (.update _ _) _) (.ok _) => true
  | called (.store _ (.delete _ _ _) _) (.ok _) => true
  | called (.register _ _ _) (.ok _) => true
  | called (.deregister _ _ _) (.ok _) => true
  | _ => false

/-- Replies that leave a workflow without an admin token, without a resource server, or without an
identifier for the central side. -/
def stops : Event → Bool
  | minted (.error _) => true
  | called (.store .localSide (.related _ _ _) _) (.error _) => true
  | called (.store .localSide (.related _ _ _) _) (.ok related) =>
    (Adapter.registrationUrl related).isNone
  | called (.store .localSide (.create kind doc) _) (.ok created) =>
    (kind.identifierOf doc).isNone && (created.firstResult.bind kind.identifierOf).isNone
  | _ => false

def Compensated (events : List Event) : Prop :=
  (tasks events).length = if events.any stops then 0 else 1

theorem Compensated.append {first second : List Event} (hstops : first.any stops = false)
    (htasks : tasks first = []) (h : Compensated second) : Compensated (first ++ second) := by
  rw [Compensated, tasks_append, htasks, List.nil_append, List.any_append, hstops, Bool.false_or]
  exact h

theorem Compensated.cons {e : Event} {rest : List Event} (hstops : e.stops = false)
    (htasks : tasks [e] = []) (h : Compensated rest) : Compensated (e :: rest) := by
  have hone : [e].any stops = false := by rw [List.any_cons, hstops, List.any_nil, Bool.false_or]
  exact Compensated.append hone htasks h

theorem stops_of_isPause {e : Event} (h : e.isPause = true) : e.stops = false := by
  cases e with
  | called call reply => exact nomatch h
  | minted reply => exact nomatch h
  | _ => rfl

theorem stops_central (call : StoreCall) (token : Token) (reply : Reply) :
    (called (.store .centralSide call token) reply).stops = false := by
  cases call <;> cases reply <;> rfl

end Event

theorem Retried.any_stops {call : Call} {reply : Reply} {events : List Event}
    (h : Retried (Asked call) reply events)
    (hcall : ∀ reply, (Event.called call reply).stops = false) : events.any Event.stops = false := by
  have hnone : ∀ e ∈ events, e.stops = false :=
    h.call_forall hcall fun _ => Event.stops_of_isPause
  rw [List.any_eq_false]
  intro e he
  rw [hnone e he]
  exact Bool.false_ne_true

section

variable {kind : EntityKind} {operation : Operation} {request : Request} {events : List Event}

theorem LocalCourse.any_wrote {error : OnboardError}
    (h : LocalCourse kind operation request (.error error) events) :
    events.any Event.wrote = false := by
  cases h with
  | unnamed => rfl
  | failed hcall => cases operation <;> simp [Event.wrote]

theorem LocalCourse.any_stops_delete {result : Except OnboardError Document}
    (h : LocalCourse kind .delete request result events) :
    events.any Event.stops = false := by
  cases h with
  | unnamed => rfl
  | failed hcall =>
    obtain ⟨id, -, rfl⟩ := Option.map_eq_some_iff.mp hcall
    rfl
  | done hcall =>
    obtain ⟨id, -, rfl⟩ := Option.map_eq_some_iff.mp hcall
    rfl

/-- A local creation stops the workflow exactly if there is no request for the central side. -/
theorem LocalCourse.any_stops_create {created : Document}
    (h : LocalCourse kind .create request (.ok created) events) :
    events.any Event.stops = (Onboarding.centralRequest kind request created).isNone := by
  cases h with
  | done hcall =>
    obtain rfl := Option.some.inj hcall
    have hnone : (Onboarding.centralRequest kind request created).isNone =
        ((kind.identifierOf request.body).isNone &&
          (created.firstResult.bind kind.identifierOf).isNone) := by
      rw [Onboarding.centralRequest, Request.identifier]
      cases kind.identifierOf request.body with
      | some id => rfl
      | none => exact Option.isNone_map
    rw [hnone]
    simp [Event.stops]

theorem CentralCourse.any_stops {doc : Document}
    (h : CentralCourse kind operation request (.ok doc) events) :
    events.any Event.stops = false := by
  cases h with
  | done hcall htried =>
    have hstops := htried.any_stops (Event.stops_central _ _)
    rw [List.any_cons, hstops]
    rfl

theorem CentralCourse.compensated {error : OnboardError}
    (h : CentralCourse kind operation request (.error error) events)
    (hcall : StoreCall.ofRequest kind operation request ≠ none) (hop : operation ≠ .get) :
    Event.Compensated events := by
  cases h with
  | unnamed hnone => exact absurd hnone hcall
  | unminted => rfl
  | @gaveUp call admin error attempts tried _ htried =>
    have hgive : Event.Compensated (giveUpEvents kind operation request admin error attempts) := by
      cases operation with
      | get => exact absurd rfl hop
      | _ => rfl
    have hstops := htried.any_stops (Event.stops_central _ _)
    exact .cons rfl rfl (.append hstops htried.call_tasks hgive)

end

section

variable {id : String} {token : Token} {events : List Event}

theorem Adapter.ResolveCourse.any_stops {found : Except OnboardError String}
    (h : ResolveCourse id token found events) :
    events.any Event.stops = !found.isOk := by
  cases h with
  | failed error => rfl
  | nowhere hurl => simp [Event.stops, lookup, hurl, Except.isOk, Except.toBool]
  | found hurl => simp [Event.stops, lookup, hurl, Except.isOk, Except.toBool]

theorem Adapter.CreateCourse.compensated {error : OnboardError}
    (h : CreateCourse id token (.error error) events) : Event.Compensated events := by
  cases h with
  | unresolved hresolve =>
    rw [Event.Compensated, hresolve.any_stops, hresolve.tasks]
    rfl
  | @failed url error first tried hresolve htried =>
    have hgive : Event.Compensated (rollbackEvents id token url error) := rfl
    have htried' := htried.any_stops fun _ => rfl
    exact .append hresolve.any_stops hresolve.tasks
      (.cons rfl rfl (.append htried' htried.call_tasks hgive))

theorem Adapter.DeleteCourse.any_stops {doc : Document}
    (h : DeleteCourse id token (.ok doc) events) : events.any Event.stops = false := by
  cases h with
  | done hresolve htried =>
    have htried' := htried.any_stops fun _ => rfl
    rw [List.any_append, hresolve.any_stops, List.any_cons, htried']
    rfl

theorem Adapter.DeleteCourse.any_wrote {error : OnboardError}
    (h : DeleteCourse id token (.error error) events) : events.any Event.wrote = false := by
  have hlookup : ∀ {found events}, ResolveCourse id token found events →
      events.any Event.wrote = false := by
    intro found events h
    cases h <;> rfl
  cases h with
  | unresolved hresolve => exact hlookup hresolve
  | @failed url error first tried hresolve htried =>
    have hnone : ∀ e ∈ tried, e.wrote = false := by
      refine htried.forall_mem (fun e he => ?_) ?_ ?_
      · cases e with
        | called call reply => exact nomatch he
        | _ => rfl
      · rintro error _ rfl e he
        rw [List.mem_singleton.mp he]
        rfl
      · rintro _ rfl e he
        rw [List.mem_singleton.mp he]
        rfl
    have htried' : tried.any Event.wrote = false := by
      rw [List.any_eq_false]
      intro e he
      simp [hnone e he]
    rw [List.any_append, hlookup hresolve, List.any_cons, List.any_append, htried']
    rfl

end

namespace Onboarding

variable {kind : EntityKind} {request : Request} {events : List Event}

theorem CreateCourse.any_stops {written : Document × String}
    (h : CreateCourse kind request (.ok written) events) : events.any Event.stops = false := by
  cases h with
  | done hlocal hcentral hwrite =>
    rw [List.any_append, hlocal.any_stops_create, hcentral, List.any_cons, hwrite.any_stops]
    rfl

theorem CreateCourse.compensated {error : OnboardError}
    (h : CreateCourse kind request (.error error) events)
    (hwrote : events.any Event.wrote = true) : Event.Compensated events := by
  cases h with
  | refused hlocal => exact absurd (hlocal.any_wrote.symm.trans hwrote) Bool.false_ne_true
  | unnamed hlocal hcentral =>
    rw [Event.Compensated, hlocal.any_stops_create, hlocal.tasks, hcentral]
    rfl
  | failed hlocal hcentral hwrite =>
    have hstops := hlocal.any_stops_create
    rw [hcentral] at hstops
    have hrest := hwrite.compensated (Option.some_ne_none _) Operation.noConfusion
    exact .append hstops hlocal.tasks (.cons rfl rfl hrest)

theorem compensated_delete {doc : Document} {error : OnboardError} {first second : List Event}
    (hlocal : LocalCourse kind .delete request (.ok doc) first)
    (hwrite : CentralCourse kind .delete request (.error error) second) :
    Event.Compensated (first ++ second) := by
  have hcall : StoreCall.ofRequest kind .delete request ≠ none := by
    cases hlocal with
    | done hcall => exact hcall ▸ Option.some_ne_none _
  exact .append hlocal.any_stops_delete hlocal.tasks
    (hwrite.compensated hcall Operation.noConfusion)

end Onboarding

/-- A workflow that fails behind a write hands over one repair, or none if it was stopped. -/
theorem Workflow.Course.compensated {f : Workflow} {error : OnboardError} {events : List Event}
    (h : f.Course (.error error) events) (hwrote : events.any Event.wrote = true) :
    Event.Compensated events := by
  cases f with
  | onboard kind request =>
    obtain ⟨created, hcreate, hresult⟩ := h
    cases created with
    | error error => exact hcreate.compensated hwrote
    | ok written => exact nomatch hresult
  | onboardItem body token =>
    cases h with
    | unwritten hwrite => exact hwrite.compensated hwrote
    | unregistered hwrite hadapter =>
      exact .append hwrite.any_stops hwrite.tasks_ok hadapter.compensated
  | offboard kind request =>
    cases h with
    | refused hlocal => exact absurd (hlocal.any_wrote.symm.trans hwrote) Bool.false_ne_true
    | passed hlocal hwrite => exact Onboarding.compensated_delete hlocal hwrite
  | offboardItem id token =>
    cases h with
    | kept hadapter => exact absurd (hadapter.any_wrote.symm.trans hwrote) Bool.false_ne_true
    | refused hadapter hlocal =>
      exact .append hadapter.any_stops hadapter.tasks
        (.append hlocal.any_stops_delete hlocal.tasks rfl)
    | passed hadapter hlocal hwrite =>
      exact .append hadapter.any_stops hadapter.tasks
        (Onboarding.compensated_delete hlocal hwrite)

/-- A verb that onboards or offboards and fails behind a write hands over exactly one repair,
unless it was stopped for want of a token, a server or an identifier. -/
theorem perform_hands_over {σ : Type} {v : Verb} {f : Workflow} (hv : v.workflow? = some f)
    (p : RetryPolicy) (w : World σ) (s : σ) {error : OnboardError}
    (herror : ((v.perform p).run w s).result = .error error)
    (hwrote : ((v.perform p).run w s).events.any Event.wrote = true) :
    (Event.tasks ((v.perform p).run w s).events).length =
      if ((v.perform p).run w s).events.any Event.stops then 0 else 1 := by
  have hcourse : f.Course _ _ := (Workflow.takes_perform hv p w s).1
  rw [herror] at hcourse
  exact hcourse.compensated hwrote

/-- An item stays in the local catalogue when its adapter is gone: it gets its adapter back. -/
theorem perform_hands_over_kept_item :
    let server := Document.ofMembers [("resourceServerRegURL", .string "http://rs")]
    let script := (Script.empty.addCalls (.related .localSide) [.ok server] none).addCalls
      (.delete .localSide) [] (some (.error (.status 500 "down")))
    let call := ((Verb.offboardItem "aqm" ⟨"token"⟩).perform .standard).run Script.world script
    call.events.any Event.wrote = true ∧ (Event.tasks call.events).length = 1 := by
  intro server script call
  have hfailed : call.result.isOk = false := by decide +kernel
  have hwrote : call.events.any Event.wrote = true := by decide +kernel
  have hstops : call.events.any Event.stops = false := by decide +kernel
  cases hresult : call.result with
  | ok doc =>
    rw [hresult] at hfailed
    exact nomatch hfailed
  | error error =>
    have h := perform_hands_over rfl .standard Script.world script hresult hwrote
    rw [if_neg (by rw [hstops]; exact Bool.false_ne_true)] at h
    exact ⟨hwrote, h⟩

/-- Nothing is handed over behind a local creation if there is no admin token, no identifier, or,
with both catalogues written, no answer as to the resource server. -/
theorem unrepaired_after_write :
    let item := Document.ofMembers [("id", .string "aqm")]
    let unnamed := Document.ofMembers [("label", .string "Air quality")]
    let run (v : Verb) (script : Script) := (v.perform .standard).run Script.world script
    let unminted := run (.onboardDomain item ⟨"token"⟩) (Script.empty.addTokens [.error ⟨"down"⟩] none)
    let unidentified := run (.onboardDomain unnamed ⟨"token"⟩) Script.empty
    let unresolved := run (.onboardItem item ⟨"token"⟩)
      (Script.empty.addCalls (.related .localSide) [.error (.status 500 "down")] none)
    ∀ call ∈ [unminted, unidentified, unresolved],
      call.result.isOk = false ∧ call.events.any Event.wrote = true ∧
        (Event.tasks call.events).length = 0 := by
  decide +kernel

end TwinCatalogue
