import TwinCatalogue.Proofs.Activity.Order
import TwinCatalogue.Proofs.Catalogue.Basic
import TwinCatalogue.Proofs.Onboarding.Workflow

/-! The order of the calls that a workflow makes: the central side only behind the local write, a
new adapter only behind both, a deletion only behind the removal of the adapter. -/

namespace TwinCatalogue

namespace Event

/-- The calls to the central catalogue, and the tokens that are minted for them. -/
def ToCentral : Event → Prop
  | minted _ => True
  | called (.store .centralSide _ _) _ => True
  | _ => False

def Registers : Event → Prop
  | called (.register _ _ _) _ => True
  | _ => False

def Deletes : Event → Prop
  | called (.store _ (.delete _ _ _) _) _ => True
  | _ => False

def localWrite? : Event → Option Reply
  | called (.store .localSide (.create _ _) _) reply => some reply
  | called (.store .localSide (.delete _ _ _) _) reply => some reply
  | _ => none

def localWrites (events : List Event) : List Reply := events.filterMap localWrite?

theorem localWrites_append (first second : List Event) :
    localWrites (first ++ second) = localWrites first ++ localWrites second :=
  List.filterMap_append

theorem isCall_of_toCentral {e : Event} (h : e.ToCentral) : e.isCall = true := by
  cases e with
  | called call reply => rfl
  | minted reply => rfl
  | _ => exact h.elim

theorem isCall_of_registers {e : Event} (h : e.Registers) : e.isCall = true := by
  cases e with
  | called call reply => rfl
  | _ => exact h.elim

theorem isCall_of_deletes {e : Event} (h : e.Deletes) : e.isCall = true := by
  cases e with
  | called call reply => rfl
  | _ => exact h.elim

theorem localWrites_of_calls {events : List Event}
    (h : ∀ e ∈ events, e.isCall = true → e.localWrite? = none) : localWrites events = [] := by
  rw [localWrites, List.filterMap_eq_nil_iff]
  intro e he
  cases e with
  | called call reply => exact h _ he rfl
  | _ => rfl

/-- Events that touch neither catalogue. -/
def Aside (e : Event) : Prop := ¬ e.ToCentral ∧ ¬ e.Deletes ∧ e.localWrite? = none

theorem aside_of_not_isCall {e : Event} (h : e.isCall = false) : e.Aside := by
  cases e with
  | called call reply => exact nomatch h
  | minted reply => exact nomatch h
  | _ => exact ⟨id, id, rfl⟩

theorem localWrites_of_aside {events : List Event} (h : ∀ e ∈ events, e.Aside) :
    localWrites events = [] :=
  localWrites_of_calls fun e he _ => (h e he).2.2

theorem tasks_dropLast_of_nil {events : List Event} (h : tasks events = []) :
    tasks events.dropLast = [] := by
  rw [tasks, List.filterMap_eq_nil_iff] at h ⊢
  intro e he
  exact h e (List.mem_of_mem_dropLast he)

theorem tasks_dropLast_append {first second : List Event} (h : tasks first = [])
    (h' : tasks second.dropLast = []) : tasks (first ++ second).dropLast = [] := by
  cases second with
  | nil =>
    rw [List.append_nil]
    exact tasks_dropLast_of_nil h
  | cons e rest =>
    rw [List.dropLast_append_cons, tasks_append, h, h']
    rfl

end Event

/-- The same write, up to the identifying member of what is created. -/
def StoreCall.Mirrors : StoreCall → StoreCall → Prop
  | .create kind doc, .create kind' doc' => kind' = kind ∧ doc'.EqExcept kind.idKey doc
  | .delete kind id path, .delete kind' id' path' => kind' = kind ∧ id' = id ∧ path' = path
  | _, _ => False

def Event.Mirrors (call : StoreCall) : Event → Prop
  | called (.store .centralSide call' _) _ => call.Mirrors call'
  | _ => True

/-- An event reaches for the central side only behind the local write of which it is a part. -/
def Opened (kind : EntityKind) (operation : Operation) (request : Request) (before : List Event)
    (e : Event) : Prop :=
  e.ToCentral → ∃ call doc, StoreCall.ofRequest kind operation request = some call ∧
    .called (.store .localSide call request.token) (.ok doc) ∈ before ∧ e.Mirrors call

def Written (kind : EntityKind) (operation : Operation) (request : Request)
    (events : List Event) : Prop :=
  ∃ call doc, StoreCall.ofRequest kind operation request = some call ∧
    .called (.store .localSide call request.token) (.ok doc) ∈ events

theorem Written.mono {kind : EntityKind} {operation : Operation} {request : Request}
    {first second : List Event} (h : Written kind operation request first)
    (hsub : first ⊆ second) : Written kind operation request second := by
  obtain ⟨call, doc, hcall, hmem⟩ := h
  exact ⟨call, doc, hcall, hsub hmem⟩

/-- An adapter is registered only behind the central creation of its item, and at the address that
a look-up of the item gave. -/
def Announced (before : List Event) (e : Event) : Prop :=
  ∀ url id token reply, e = .called (.register url id token) reply →
    (∃ doc admin answer, EntityKind.item.identifierOf doc = some id ∧
      .called (.store .centralSide (.create .item doc) admin) (.ok answer) ∈ before) ∧
    ∃ related, Adapter.registrationUrl related = some url ∧
      .called (Adapter.lookup id token) (.ok related) ∈ before

/-- An item is deleted only behind the removal of its adapter. -/
def Released (id : String) (token : Token) (before : List Event) (e : Event) : Prop :=
  e.Deletes → ∃ url doc, .called (.deregister url id token) (.ok doc) ∈ before

theorem Opened.mono {kind : EntityKind} {operation : Operation} {request : Request}
    {before before' : List Event} {e : Event} (h : Opened kind operation request before e)
    (hsub : before ⊆ before') : Opened kind operation request before' e := by
  intro hcentral
  obtain ⟨call, doc, hcall, hmem, hmirrors⟩ := h hcentral
  exact ⟨call, doc, hcall, hsub hmem, hmirrors⟩

theorem announced_of_not_registers {events : List Event} (h : ∀ e ∈ events, ¬ e.Registers)
    (front : List Event) : Event.Guarded (fun before => Announced (front ++ before)) events := by
  refine Event.guarded_of_forall fun e he before url id token reply heq => ?_
  exact (h e he (heq ▸ trivial)).elim

section

variable {kind : EntityKind} {operation : Operation} {request : Request} {events : List Event}

theorem LocalCourse.not_toCentral {result : Except OnboardError Document}
    (h : LocalCourse kind operation request result events) : ∀ e ∈ events, ¬ e.ToCentral := by
  intro e he hcentral
  obtain ⟨call, reply, -, rfl⟩ := h.calls he (Event.isCall_of_toCentral hcentral)
  exact hcentral

theorem LocalCourse.not_registers {result : Except OnboardError Document}
    (h : LocalCourse kind operation request result events) : ∀ e ∈ events, ¬ e.Registers := by
  intro e he hregisters
  obtain ⟨call, reply, -, rfl⟩ := h.calls he (Event.isCall_of_registers hregisters)
  exact hregisters

theorem CentralCourse.not_registers {result : Except OnboardError Document}
    (h : CentralCourse kind operation request result events) : ∀ e ∈ events, ¬ e.Registers := by
  intro e he hregisters
  rcases h.calls he (Event.isCall_of_registers hregisters) with
    ⟨reply, rfl⟩ | ⟨call, admin, reply, -, -, rfl⟩
  · exact hregisters
  · exact hregisters

theorem LocalCourse.localWrites_ok {doc : Document}
    (h : LocalCourse kind operation request (.ok doc) events) (hop : operation ≠ .update)
    (hop' : operation ≠ .get) : Event.localWrites events = [.ok doc] := by
  cases h with
  | done hcall =>
    cases operation with
    | create =>
      obtain rfl := Option.some.inj hcall
      rfl
    | delete =>
      obtain ⟨id, -, rfl⟩ := Option.map_eq_some_iff.mp hcall
      rfl
    | update => exact absurd rfl hop
    | get => exact absurd rfl hop'

theorem LocalCourse.localWrites_error {error : OnboardError}
    (h : LocalCourse kind operation request (.error error) events) :
    Event.localWrites events = [] ∨ ∃ error, Event.localWrites events = [.error error] := by
  cases h with
  | unnamed => exact Or.inl rfl
  | @failed call error hcall =>
    cases call with
    | create kind doc => exact Or.inr ⟨error, rfl⟩
    | delete kind id path => exact Or.inr ⟨error, rfl⟩
    | _ => exact Or.inl rfl

theorem CentralCourse.localWrites {result : Except OnboardError Document}
    (h : CentralCourse kind operation request result events) : Event.localWrites events = [] := by
  refine Event.localWrites_of_calls fun e he hcall => ?_
  rcases h.calls he hcall with ⟨reply, rfl⟩ | ⟨call, admin, reply, -, -, rfl⟩
  · rfl
  · rfl

theorem CentralCourse.opened {central : Request} {result : Except OnboardError Document}
    {call : StoreCall} {doc : Document} {before : List Event}
    (h : CentralCourse kind operation central result events)
    (hcall : StoreCall.ofRequest kind operation request = some call)
    (hdone : .called (.store .localSide call request.token) (.ok doc) ∈ before)
    (hmirrors : ∀ call', StoreCall.ofRequest kind operation central = some call' →
      call.Mirrors call') :
    Event.Guarded (fun rest => Opened kind operation request (before ++ rest)) events := by
  refine Event.guarded_of_forall fun e he rest hcentral => ?_
  refine ⟨call, doc, hcall, List.mem_append_left _ hdone, ?_⟩
  rcases h.calls he (Event.isCall_of_toCentral hcentral) with
    ⟨reply, rfl⟩ | ⟨call', admin, reply, hcall', -, rfl⟩
  · trivial
  · exact hmirrors call' hcall'

theorem CentralCourse.tasks_dropLast {result : Except OnboardError Document}
    (h : CentralCourse kind operation request result events) : Event.tasks events.dropLast = [] := by
  cases h with
  | unnamed => rfl
  | unminted => rfl
  | @gaveUp call admin error attempts tried hcall htried =>
    have hgive : Event.tasks
        (giveUpEvents kind operation request admin error attempts).dropLast = [] := by
      cases operation <;> rfl
    exact @Event.tasks_dropLast_append (_ :: tried) _ htried.call_tasks hgive
  | done hcall htried => exact Event.tasks_dropLast_of_nil htried.call_tasks

end

namespace Adapter

variable {id : String} {token : Token} {result : Except OnboardError Document}
  {events : List Event}

theorem CreateCourse.aside (h : CreateCourse id token result events) : ∀ e ∈ events, e.Aside := by
  intro e he
  cases hcall : e.isCall with
  | false => exact Event.aside_of_not_isCall hcall
  | true =>
    rcases h.calls he hcall with ⟨reply, rfl⟩ | ⟨url, reply, rfl⟩
    · exact ⟨fun h => h, fun h => h, rfl⟩
    · exact ⟨fun h => h, fun h => h, rfl⟩

theorem DeleteCourse.not_registers (h : DeleteCourse id token result events) :
    ∀ e ∈ events, ¬ e.Registers := by
  intro e he hregisters
  rcases h.calls he (Event.isCall_of_registers hregisters) with ⟨reply, rfl⟩ | ⟨url, reply, rfl⟩
  · exact hregisters
  · exact hregisters

theorem DeleteCourse.aside (h : DeleteCourse id token result events) : ∀ e ∈ events, e.Aside := by
  intro e he
  cases hcall : e.isCall with
  | false => exact Event.aside_of_not_isCall hcall
  | true =>
    rcases h.calls he hcall with ⟨reply, rfl⟩ | ⟨url, reply, rfl⟩
    · exact ⟨fun h => h, fun h => h, rfl⟩
    · exact ⟨fun h => h, fun h => h, rfl⟩

theorem CreateCourse.announced {front : List Event} (h : CreateCourse id token result events)
    (hcentral : ∃ doc admin answer, EntityKind.item.identifierOf doc = some id ∧
      .called (.store .centralSide (.create .item doc) admin) (.ok answer) ∈ front) :
    Event.Guarded (fun before => Announced (front ++ before)) events := by
  obtain ⟨doc, admin, answer, hid, hmem⟩ := hcentral
  -- Behind the look-up, whatever calls the server is announced.
  have hbehind : ∀ {url : String} {first rest : List Event},
      ResolveCourse id token (.ok url) first →
      (∀ e ∈ rest, e.Registers → ∃ reply, e = .called (.register url id token) reply) →
      Event.Guarded (fun before => Announced (front ++ before)) (first ++ rest) := by
    intro url first rest hresolve hrest
    refine Event.Guarded.append (announced_of_not_registers ?_ front) ?_
    · intro e he
      obtain ⟨reply, rfl⟩ := hresolve.calls he
      exact fun h => h
    · refine Event.guarded_of_forall fun e he before url' id' token' reply heq => ?_
      obtain ⟨reply', heq'⟩ := hrest e he (heq ▸ trivial)
      rw [heq] at heq'
      cases heq'
      refine ⟨⟨doc, admin, answer, hid, List.mem_append_left _ hmem⟩, ?_⟩
      cases hresolve with
      | @found related url hurl =>
        exact ⟨related, hurl, List.mem_append_right _ (List.mem_append_left _ List.mem_cons_self)⟩
  cases h with
  | unresolved hresolve =>
    refine announced_of_not_registers ?_ front
    intro e he
    obtain ⟨reply, rfl⟩ := hresolve.calls he
    exact fun h => h
  | failed hresolve htried =>
    refine hbehind hresolve fun e he hregisters => ?_
    rcases List.mem_cons.mp he with rfl | he
    · exact hregisters.elim
    · rcases List.mem_append.mp he with he | he
      · exact htried.calls he (Event.isCall_of_registers hregisters)
      · simp only [rollbackEvents, List.mem_cons, List.not_mem_nil, or_false] at he
        rcases he with rfl | rfl | rfl | rfl | rfl <;> exact hregisters.elim
  | done hresolve htried =>
    refine hbehind hresolve fun e he hregisters => ?_
    rcases List.mem_cons.mp he with rfl | he
    · exact hregisters.elim
    · exact htried.calls he (Event.isCall_of_registers hregisters)

theorem CreateCourse.tasks_dropLast (h : CreateCourse id token result events) :
    Event.tasks events.dropLast = [] := by
  cases h with
  | unresolved hresolve => exact Event.tasks_dropLast_of_nil hresolve.tasks
  | failed hresolve htried =>
    refine Event.tasks_dropLast_append hresolve.tasks ?_
    exact @Event.tasks_dropLast_append (_ :: _) _ htried.call_tasks rfl
  | done hresolve htried =>
    exact Event.tasks_dropLast_append hresolve.tasks
      (@Event.tasks_dropLast_of_nil (_ :: _) htried.call_tasks)

end Adapter

namespace Onboarding

variable {kind : EntityKind} {request : Request} {events : List Event}

/-- What is created on the central side is what was created on the local one, under an
identifier. -/
theorem centralRequest_body {created : Document} {central : Request} {id : String}
    (h : centralRequest kind request created = some (central, id)) :
    kind.identifierOf central.body = some id ∧
      central.body.EqExcept kind.idKey request.body := by
  unfold centralRequest at h
  split at h
  · obtain ⟨rfl, rfl⟩ := Prod.mk.inj (Option.some.inj h)
    exact ⟨‹_›, Document.EqExcept.refl _ _⟩
  · obtain ⟨found, hfound, heq⟩ := Option.map_eq_some_iff.mp h
    obtain ⟨rfl, rfl⟩ := Prod.mk.inj heq
    obtain ⟨entity, -, hid⟩ := Option.bind_eq_some_iff.mp hfound
    constructor
    · exact EntityKind.identifierOf_of_get? (EntityKind.identifierOf_ne_empty hid)
        (by simp [Request.withId])
    · intro k hk
      simp [Request.withId, Document.get?_insert, hk]

theorem CreateCourse.written {written : Document × String}
    (h : CreateCourse kind request (.ok written) events) :
    Written kind .create request events := by
  cases h with
  | done hlocal hcentral hwrite =>
    obtain ⟨call, hcall, hmem⟩ := hlocal.called_mem
    exact ⟨call, _, hcall, List.mem_append_left _ hmem⟩

theorem CreateCourse.created {doc : Document} {id : String}
    (h : CreateCourse kind request (.ok (doc, id)) events) :
    ∃ entity admin answer, kind.identifierOf entity = some id ∧
      .called (.store .centralSide (.create kind entity) admin) (.ok answer) ∈ events := by
  cases h with
  | done hlocal hcentral hwrite =>
    cases hwrite with
    | @done call admin doc tried hcall htried =>
      obtain rfl := Option.some.inj hcall
      refine ⟨_, admin, doc, (centralRequest_body hcentral).1, ?_⟩
      exact List.mem_append_right _
        (List.mem_cons_of_mem _ (List.mem_cons_of_mem _ htried.called_mem))

end Onboarding

/-- One write on the local and then on the central side. -/
structure Mirrored (kind : EntityKind) (operation : Operation) (request : Request)
    (events : List Event) : Prop where
  opened : Event.Guarded (Opened kind operation request) events
  writes_once : (Event.localWrites events).length ≤ 1
  not_registers : ∀ e ∈ events, ¬ e.Registers
  hands_over_last : Event.tasks events.dropLast = []
  tasks : Event.tasks events = [] ∨ Written kind operation request events ∧
    ∃ central admin, Event.tasks events = centralRepair kind operation central admin

section

variable {kind : EntityKind} {operation : Operation} {request : Request}

theorem LocalCourse.mirrored {result : Except OnboardError Document} {events : List Event}
    (h : LocalCourse kind operation request result events) (hop : operation ≠ .update)
    (hop' : operation ≠ .get) : Mirrored kind operation request events where
  opened := Event.guarded_of_forall fun e he _ hcentral => (h.not_toCentral e he hcentral).elim
  writes_once := by
    cases result with
    | ok doc => rw [h.localWrites_ok hop hop', List.length_singleton]
    | error error =>
      rcases h.localWrites_error with hnone | ⟨error, hone⟩
      · simp [hnone]
      · simp [hone]
  not_registers := h.not_registers
  hands_over_last := Event.tasks_dropLast_of_nil h.tasks
  tasks := Or.inl h.tasks

theorem mirrored_append {central : Request} {doc : Document}
    {result : Except OnboardError Document} {first second : List Event} (middle : List Event)
    (hlocal : LocalCourse kind operation request (.ok doc) first) (hop : operation ≠ .update)
    (hop' : operation ≠ .get) (hmiddle : ∀ e ∈ middle, ∃ entry, e = .logged entry)
    (hwrite : CentralCourse kind operation central result second)
    (hmirrors : ∀ call call', StoreCall.ofRequest kind operation request = some call →
      StoreCall.ofRequest kind operation central = some call' → call.Mirrors call') :
    Mirrored kind operation request (first ++ (middle ++ second)) := by
  obtain ⟨call, hcall, hdone⟩ := hlocal.called_mem
  have htasks : Event.tasks (first ++ middle) = [] := by
    rw [Event.tasks_append, hlocal.tasks, List.nil_append]
    refine Event.tasks_of_quiet fun e he => ?_
    obtain ⟨entry, rfl⟩ := hmiddle e he
    trivial
  have hmiddle' : Event.localWrites middle = [] := by
    refine Event.localWrites_of_calls fun e he hcall => ?_
    obtain ⟨entry, rfl⟩ := hmiddle e he
    exact nomatch hcall
  have hfirst : Event.Guarded (Opened kind operation request) (first ++ middle) := by
    refine Event.guarded_of_forall fun e he before hcentral => ?_
    rcases List.mem_append.mp he with he | he
    · exact (hlocal.not_toCentral e he hcentral).elim
    · obtain ⟨entry, rfl⟩ := hmiddle e he
      exact hcentral.elim
  rw [← List.append_assoc]
  constructor
  · exact hfirst.append (hwrite.opened hcall (List.mem_append_left _ hdone) (hmirrors call · hcall))
  · rw [Event.localWrites_append, Event.localWrites_append, hlocal.localWrites_ok hop hop',
      hmiddle', hwrite.localWrites]
    rfl
  · intro e he
    rcases List.mem_append.mp he with he | he
    · rcases List.mem_append.mp he with he | he
      · exact hlocal.not_registers e he
      · obtain ⟨entry, rfl⟩ := hmiddle e he
        exact fun h => h
    · exact hwrite.not_registers e he
  · exact Event.tasks_dropLast_append htasks hwrite.tasks_dropLast
  · rw [Event.tasks_append, htasks, List.nil_append]
    rcases hwrite.tasks with hnone | ⟨admin, -, hone⟩
    · exact Or.inl hnone
    · exact Or.inr ⟨⟨call, doc, hcall, List.mem_append_left _ (List.mem_append_left _ hdone)⟩,
        central, admin, hone⟩

theorem Onboarding.CreateCourse.mirrored {result : Except OnboardError (Document × String)}
    {events : List Event} (h : CreateCourse kind request result events) :
    Mirrored kind .create request events := by
  have hboth : ∀ {created : Document} {central : Request} {id : String}
      {result : Except OnboardError Document} {first second : List Event},
      LocalCourse kind .create request (.ok created) first →
      centralRequest kind request created = some (central, id) →
      CentralCourse kind .create central result second →
      Mirrored kind .create request (first ++ .logged (.createdLocally kind id) :: second) := by
    intro created central id result first second hlocal hcentral hwrite
    refine mirrored_append [_] hlocal Operation.noConfusion Operation.noConfusion
      (fun e he => ⟨_, List.mem_singleton.mp he⟩) hwrite fun call call' hcall hcall' => ?_
    obtain rfl := Option.some.inj hcall
    obtain rfl := Option.some.inj hcall'
    exact ⟨rfl, (centralRequest_body hcentral).2⟩
  cases h with
  | refused hlocal => exact hlocal.mirrored Operation.noConfusion Operation.noConfusion
  | unnamed hlocal hcentral => exact hlocal.mirrored Operation.noConfusion Operation.noConfusion
  | failed hlocal hcentral hwrite => exact hboth hlocal hcentral hwrite
  | done hlocal hcentral hwrite => exact hboth hlocal hcentral hwrite

theorem mirrored_delete {doc : Document} {result : Except OnboardError Document}
    {first second : List Event} (hlocal : LocalCourse kind .delete request (.ok doc) first)
    (hwrite : CentralCourse kind .delete request result second) :
    Mirrored kind .delete request (first ++ second) := by
  refine mirrored_append [] hlocal Operation.noConfusion Operation.noConfusion
    (fun e he => (List.not_mem_nil he).elim) hwrite fun call call' hcall hcall' => ?_
  obtain rfl := Option.some.inj (hcall.symm.trans hcall')
  obtain ⟨id, -, rfl⟩ := Option.map_eq_some_iff.mp hcall
  exact ⟨rfl, rfl, rfl⟩

end

namespace Workflow

/-- What a workflow may hand over, in view of the events of its call. -/
inductive HandedOver (f : Workflow) (events : List Event) : List RepairTask → Prop
  | nothing : HandedOver f events []
  | mirror {central : Request} {admin : Token}
      (hwritten : Written f.kind f.operation f.request events) :
      HandedOver f events (centralRepair f.kind f.operation central admin)
  | rollback {body : Document} {id : String} {token : Token} (hf : f = .onboardItem body token)
      (hwritten : Written f.kind f.operation f.request events) :
      HandedOver f events [.rollback id token]
  | restore {id : String} {token : Token} {error : OnboardError} {kept : List Event}
      (hf : f = .offboardItem id token)
      (hgone : ∃ url doc, .called (.deregister url id token) (.ok doc) ∈ events)
      (hkept : LocalCourse .item .delete (Onboarding.itemRequest id token) (.error error) kept)
      (hwrites : Event.localWrites events = Event.localWrites kept) (hsub : kept ⊆ events) :
      HandedOver f events [Onboarding.restoreTask (Onboarding.itemRequest id token)]

structure CallOrder (f : Workflow) (events : List Event) : Prop where
  opened : Event.Guarded (Opened f.kind f.operation f.request) events
  writes_once : (Event.localWrites events).length ≤ 1
  announced : Event.Guarded Announced events
  released : ∀ id token, f = .offboardItem id token → Event.Guarded (Released id token) events
  hands_over_last : Event.tasks events.dropLast = []
  tasks : f.HandedOver events (Event.tasks events)

variable {f : Workflow} {events : List Event}

theorem callOrder_of_mirrored (h : Mirrored f.kind f.operation f.request events)
    (hf : ∀ id token, f ≠ .offboardItem id token) : f.CallOrder events where
  opened := h.opened
  writes_once := h.writes_once
  announced := by
    have hnone := announced_of_not_registers h.not_registers []
    exact hnone
  released id token heq := absurd heq (hf id token)
  hands_over_last := h.hands_over_last
  tasks := by
    rcases h.tasks with hnone | ⟨hwritten, central, admin, hone⟩
    · rw [hnone]
      exact .nothing
    · rw [hone]
      exact .mirror hwritten

theorem guarded_opened_aside {kind : EntityKind} {operation : Operation} {request : Request}
    {front : List Event} (h : ∀ e ∈ events, e.Aside) :
    Event.Guarded (fun before => Opened kind operation request (front ++ before)) events :=
  Event.guarded_of_forall fun e he _ hcentral => ((h e he).1 hcentral).elim

theorem callOrder_onboardItem {body : Document} {token : Token}
    {result : Except OnboardError Document}
    (h : Onboarding.ItemCreateCourse body token result events) :
    (onboardItem body token).CallOrder events := by
  have hadapter : ∀ {doc : Document} {id : String} {result : Except OnboardError Document}
      {first second : List Event},
      Onboarding.CreateCourse .item ⟨body, none, token⟩ (.ok (doc, id)) first →
      Adapter.CreateCourse id token result second →
      (onboardItem body token).CallOrder (first ++ second) := by
    intro doc id result first second hwrite hadapter
    have hmirrored := hwrite.mirrored
    have hfirst : Event.tasks first = [] := hwrite.tasks_ok
    constructor
    · exact hmirrored.opened.append (guarded_opened_aside hadapter.aside)
    · rw [Event.localWrites_append, Event.localWrites_of_aside hadapter.aside, List.append_nil]
      exact hmirrored.writes_once
    · exact Event.Guarded.append (announced_of_not_registers hmirrored.not_registers [])
        (hadapter.announced hwrite.created)
    · exact fun id token h => nomatch h
    · exact Event.tasks_dropLast_append hfirst hadapter.tasks_dropLast
    · rw [Event.tasks_append, hfirst, List.nil_append]
      rcases hadapter.tasks with hnone | hone
      · rw [hnone]
        exact .nothing
      · rw [hone]
        exact .rollback rfl (hwrite.written.mono (List.subset_append_left _ _))
  cases h with
  | unwritten hwrite => exact callOrder_of_mirrored hwrite.mirrored fun _ _ h => nomatch h
  | written hwrite hregister => exact hadapter hwrite hregister
  | unregistered hwrite hregister => exact hadapter hwrite hregister

theorem callOrder_kept {id : String} {token : Token} {error : OnboardError}
    (h : Adapter.DeleteCourse id token (.error error) events) :
    (offboardItem id token).CallOrder events where
  opened := Event.guarded_of_forall fun e he _ hcentral => ((h.aside e he).1 hcentral).elim
  writes_once := by
    rw [Event.localWrites_of_aside h.aside]
    exact Nat.zero_le 1
  announced := announced_of_not_registers h.not_registers []
  released _ _ _ := Event.guarded_of_forall fun e he _ hdeletes =>
    ((h.aside e he).2.1 hdeletes).elim
  hands_over_last := Event.tasks_dropLast_of_nil h.tasks
  tasks := by
    rw [h.tasks]
    exact .nothing

/-- Behind the removal of the adapter, what follows may delete the item. -/
theorem callOrder_removed {id : String} {token : Token} {answer : Document}
    {first second : List Event} (h : Adapter.DeleteCourse id token (.ok answer) first)
    (hopened : Event.Guarded (Opened .item .delete (Onboarding.itemRequest id token)) second)
    (hwrites : (Event.localWrites second).length ≤ 1) (hnone : ∀ e ∈ second, ¬ e.Registers)
    (hlast : Event.tasks second.dropLast = [])
    (htasks : (offboardItem id token).HandedOver (first ++ second) (Event.tasks second)) :
    (offboardItem id token).CallOrder (first ++ second) where
  opened := by
    refine Event.Guarded.append
      (Event.guarded_of_forall fun e he _ hcentral => ((h.aside e he).1 hcentral).elim) ?_
    exact hopened.mono fun before e _ hp => hp.mono (List.subset_append_right _ _)
  writes_once := by
    rw [Event.localWrites_append, Event.localWrites_of_aside h.aside, List.nil_append]
    exact hwrites
  announced := Event.Guarded.append (announced_of_not_registers h.not_registers [])
    (announced_of_not_registers hnone first)
  released id' token' hf := by
    obtain ⟨rfl, rfl⟩ := Workflow.offboardItem.inj hf
    obtain ⟨url, hmem⟩ := Adapter.ServerCourse.called_mem h
    refine Event.Guarded.append
      (Event.guarded_of_forall fun e he _ hdeletes => ((h.aside e he).2.1 hdeletes).elim) ?_
    exact Event.guarded_of_forall fun e _ before _ =>
      ⟨url, answer, List.mem_append_left _ hmem⟩
  hands_over_last := Event.tasks_dropLast_append h.tasks hlast
  tasks := by
    rw [Event.tasks_append, h.tasks, List.nil_append]
    exact htasks

theorem callOrder_offboardItem {id : String} {token : Token}
    {result : Except OnboardError Document}
    (h : Onboarding.ItemDeleteCourse id token result events) :
    (offboardItem id token).CallOrder events := by
  cases h with
  | kept hadapter => exact callOrder_kept hadapter
  | @refused answer error first second hadapter hlocal =>
    have hmirrored := hlocal.mirrored Operation.noConfusion Operation.noConfusion
    have hrestore : ∀ e ∈ Onboarding.restoreEvents (Onboarding.itemRequest id token),
        e.isCall = false := by
      simp [Onboarding.restoreEvents, Event.isCall]
    have haside := fun e he => Event.aside_of_not_isCall (hrestore e he)
    have hwrites : Event.localWrites
        (second ++ Onboarding.restoreEvents (Onboarding.itemRequest id token)) =
          Event.localWrites second := by
      rw [Event.localWrites_append, Event.localWrites_of_aside haside, List.append_nil]
    refine callOrder_removed hadapter ?_ ?_ ?_ ?_ ?_
    · exact hmirrored.opened.append (guarded_opened_aside haside)
    · rw [hwrites]
      exact hmirrored.writes_once
    · intro e he hregisters
      rcases List.mem_append.mp he with he | he
      · exact hmirrored.not_registers e he hregisters
      · exact Bool.false_ne_true
          ((hrestore e he).symm.trans (Event.isCall_of_registers hregisters))
    · exact Event.tasks_dropLast_append hlocal.tasks rfl
    · obtain ⟨url, hmem⟩ := Adapter.ServerCourse.called_mem hadapter
      rw [Event.tasks_append, hlocal.tasks]
      refine .restore rfl ⟨url, answer, List.mem_append_left _ hmem⟩ hlocal ?_ ?_
      · rw [Event.localWrites_append, Event.localWrites_of_aside hadapter.aside, hwrites]
        rfl
      · exact fun e he => List.mem_append_right _ (List.mem_append_left _ he)
  | passed hadapter hlocal hwrite =>
    have hmirrored := mirrored_delete hlocal hwrite
    refine callOrder_removed hadapter hmirrored.opened hmirrored.writes_once
      hmirrored.not_registers hmirrored.hands_over_last ?_
    rcases hmirrored.tasks with hnone | ⟨hwritten, central, admin, hone⟩
    · rw [hnone]
      exact .nothing
    · rw [hone]
      exact .mirror (hwritten.mono (List.subset_append_right _ _))

theorem Course.callOrder {result : Except OnboardError Document} (h : f.Course result events) :
    f.CallOrder events := by
  cases f with
  | onboard kind request =>
    obtain ⟨created, hcourse, -⟩ := h
    exact callOrder_of_mirrored hcourse.mirrored fun _ _ h => nomatch h
  | onboardItem body token => exact callOrder_onboardItem h
  | offboard kind request =>
    have hmirrored : Mirrored kind .delete request events := by
      cases h with
      | refused hlocal => exact hlocal.mirrored Operation.noConfusion Operation.noConfusion
      | passed hlocal hwrite => exact mirrored_delete hlocal hwrite
    exact callOrder_of_mirrored hmirrored fun _ _ h => nomatch h
  | offboardItem id token => exact callOrder_offboardItem h

end Workflow

end TwinCatalogue
