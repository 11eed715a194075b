import TwinCatalogue.Proofs.Onboarding.CallOrder
import TwinCatalogue.Proofs.Repair.Verdict
import TwinCatalogue.Script

/-! The identifier of an onboarding. It is the one in the body, or else the one that the local
catalogue gave, and all that follows the local creation goes by it: the entry on the central side,
the adapter, and the repair. -/

namespace TwinCatalogue

/-- The document for the central side: the local one, with `id` under the key of its kind if it
carries no identifier. -/
def Request.mirrored (request : Request) (kind : EntityKind) (id : String) : Document :=
  match request.identifier kind with
  | some _ => request.body
  | none => request.body.insert kind.idKey (.string id)

/-- The calls of an onboarding that goes by the identifier `id`, and of its repair. -/
inductive OnboardingCall (kind : EntityKind) (request : Request) (id : String) : Call → Prop
  | creation : OnboardingCall kind request id
      (.store .localSide (.create kind request.body) request.token)
  | mirroring (admin : Token) : OnboardingCall kind request id
      (.store .centralSide (.create kind (request.mirrored kind id)) admin)
  | lookup : OnboardingCall kind request id (Adapter.lookup id request.token)
  | registration (url : String) : OnboardingCall kind request id (.register url id request.token)
  | withdrawal : OnboardingCall kind request id
      (.store .localSide (.delete kind id request.path) request.token)
  | removal (admin : Token) : OnboardingCall kind request id
      (.store .centralSide (.delete kind id request.path) admin)

/-- The repairs of an onboarding: the local entry is withdrawn when the central side has given up,
and an item is taken back from both when its adapter could not be registered. -/
inductive OnboardingRepair (kind : EntityKind) (request : Request) (id : String) :
    RepairTask → Prop
  | withdrawal (admin : Token) : OnboardingRepair kind request id
      { kind := kind
        operation := .create
        failed := .centralSide
        action := .deleteLocal
        id := some id
        path := request.path
        token := request.token
        adminToken := some admin }
  | rollback (hkind : kind = .item) (hpath : request.path = none) :
      OnboardingRepair kind request id (.rollback id request.token)

/-- The events of an onboarding that goes by the identifier `id`. -/
structure GoesBy (kind : EntityKind) (request : Request) (id : String) (events : List Event) :
    Prop where
  origin : ∃ created,
    .called (.store .localSide (.create kind request.body) request.token) (.ok created) ∈ events ∧
    (request.identifier kind).or (created.firstResult.bind kind.identifierOf) = some id
  mirrored : kind.identifierOf (request.mirrored kind id) = some id
  calls : ∀ call reply, .called call reply ∈ events → OnboardingCall kind request id call
  tasks : ∀ task ∈ Event.tasks events, OnboardingRepair kind request id task

theorem OnboardingRepair.id_eq {kind : EntityKind} {request : Request} {id : String}
    {task : RepairTask} (h : OnboardingRepair kind request id task) : task.id = some id := by
  cases h <;> rfl

namespace Onboarding

variable {kind : EntityKind} {request : Request} {events : List Event}

theorem centralRequest_eq {created : Document} {central : Request} {id : String}
    (h : centralRequest kind request created = some (central, id)) :
    central = { request with body := request.mirrored kind id } ∧
      (request.identifier kind).or (created.firstResult.bind kind.identifierOf) = some id := by
  unfold centralRequest at h
  unfold Request.mirrored
  cases hid : request.identifier kind with
  | some own =>
    rw [hid] at h
    obtain ⟨rfl, rfl⟩ := Prod.mk.inj (Option.some.inj h)
    exact ⟨rfl, rfl⟩
  | none =>
    rw [hid] at h
    obtain ⟨given, hgiven, heq⟩ := Option.map_eq_some_iff.mp h
    obtain ⟨rfl, rfl⟩ := Prod.mk.inj heq
    exact ⟨rfl, hgiven⟩

theorem goesBy_mirror {created : Document} {central : Request} {id : String}
    {result : Except OnboardError Document} {first second : List Event}
    (hlocal : LocalCourse kind .create request (.ok created) first)
    (hcentral : centralRequest kind request created = some (central, id))
    (hwrite : CentralCourse kind .create central result second) :
    GoesBy kind request id (first ++ .logged (.createdLocally kind id) :: second) := by
  obtain ⟨hid, -⟩ := centralRequest_body hcentral
  obtain ⟨rfl, horigin⟩ := centralRequest_eq hcentral
  constructor
  · obtain ⟨call, hcall, hmem⟩ := hlocal.called_mem
    obtain rfl := Option.some.inj hcall
    exact ⟨created, List.mem_append_left _ hmem, horigin⟩
  · exact hid
  · intro call reply hmem
    rcases List.mem_append.mp hmem with hmem | hmem
    · obtain ⟨write, reply', hcall, heq⟩ := hlocal.calls hmem rfl
      obtain rfl := Option.some.inj hcall
      cases heq
      exact .creation
    · rcases List.mem_cons.mp hmem with heq | hmem
      · exact nomatch heq
      · rcases hwrite.calls hmem rfl with ⟨reply', heq⟩ | ⟨write, admin, reply', hcall, -, heq⟩
        · exact nomatch heq
        · obtain rfl := Option.some.inj hcall
          cases heq
          exact .mirroring admin
  · intro task htask
    rw [Event.tasks_append, hlocal.tasks] at htask
    have hsecond : task ∈ Event.tasks second := htask
    rcases hwrite.tasks with hnone | ⟨admin, -, hone⟩
    · rw [hnone] at hsecond
      exact absurd hsecond List.not_mem_nil
    · rw [hone] at hsecond
      obtain rfl := List.mem_singleton.mp hsecond
      rw [show Request.identifier _ kind = some id from hid]
      exact .withdrawal admin

theorem CreateCourse.goesBy_ok {doc : Document} {id : String}
    (h : CreateCourse kind request (.ok (doc, id)) events) : GoesBy kind request id events := by
  cases h with
  | done hlocal hcentral hwrite => exact goesBy_mirror hlocal hcentral hwrite

/-- Without an identifier for the central side, a creation stays on the local one. -/
theorem CreateCourse.goesBy {result : Except OnboardError (Document × String)}
    (h : CreateCourse kind request result events) :
    (∃ id, GoesBy kind request id events) ∨
      Event.tasks events = [] ∧ ∀ e ∈ events, ¬ e.ToCentral := by
  cases h with
  | refused hlocal => exact Or.inr ⟨hlocal.tasks, hlocal.not_toCentral⟩
  | unnamed hlocal hcentral => exact Or.inr ⟨hlocal.tasks, hlocal.not_toCentral⟩
  | failed hlocal hcentral hwrite => exact Or.inl ⟨_, goesBy_mirror hlocal hcentral hwrite⟩
  | done hlocal hcentral hwrite => exact Or.inl ⟨_, goesBy_mirror hlocal hcentral hwrite⟩

theorem goesBy_registration {body : Document} {token : Token} {id : String}
    {result : Except OnboardError Document} {first second : List Event}
    (h : GoesBy .item ⟨body, none, token⟩ id first)
    (hadapter : Adapter.CreateCourse id token result second) :
    GoesBy .item ⟨body, none, token⟩ id (first ++ second) where
  origin := by
    obtain ⟨created, hmem, horigin⟩ := h.origin
    exact ⟨created, List.mem_append_left _ hmem, horigin⟩
  mirrored := h.mirrored
  calls call reply hmem := by
    rcases List.mem_append.mp hmem with hmem | hmem
    · exact h.calls call reply hmem
    · rcases hadapter.calls hmem rfl with ⟨reply', heq⟩ | ⟨url, reply', heq⟩
      · cases heq
        exact .lookup
      · cases heq
        exact .registration url
  tasks task htask := by
    rw [Event.tasks_append, List.mem_append] at htask
    rcases htask with htask | htask
    · exact h.tasks task htask
    · rcases hadapter.tasks with hnone | hone
      · rw [hnone] at htask
        exact absurd htask List.not_mem_nil
      · rw [hone] at htask
        obtain rfl := List.mem_singleton.mp htask
        exact .rollback rfl rfl

end Onboarding

theorem Workflow.Course.goesBy {f : Workflow} {result : Except OnboardError Document}
    {events : List Event} (h : f.Course result events) (hf : f.operation = .create) :
    (∃ id, GoesBy f.kind f.request id events) ∨
      Event.tasks events = [] ∧ ∀ e ∈ events, ¬ e.ToCentral := by
  cases f with
  | onboard kind request =>
    obtain ⟨created, hcreate, -⟩ := h
    exact hcreate.goesBy
  | onboardItem body token =>
    cases h with
    | unwritten hwrite => exact hwrite.goesBy
    | written hwrite hadapter =>
      exact Or.inl ⟨_, Onboarding.goesBy_registration hwrite.goesBy_ok hadapter⟩
    | unregistered hwrite hadapter =>
      exact Or.inl ⟨_, Onboarding.goesBy_registration hwrite.goesBy_ok hadapter⟩
  | offboard kind request => exact nomatch hf
  | offboardItem id token => exact nomatch hf

theorem OnboardingRepair.call {kind : EntityKind} {request : Request} {id id' : String}
    {task : RepairTask} {call : Call} {reply : Reply} {work : List Event}
    (h : OnboardingRepair kind request id task) (hid : task.id = some id')
    (hreach : task.Reaches id' work (.called call reply)) :
    OnboardingCall kind request id call := by
  obtain rfl := Option.some.inj (h.id_eq.symm.trans hid)
  cases h with
  | withdrawal admin =>
    obtain ⟨reply', heq⟩ := hreach
    cases heq
    exact .withdrawal
  | rollback hkind hpath =>
    subst hkind
    rcases hreach with ⟨reply', heq⟩ | ⟨reply', heq⟩ | ⟨admin, reply', -, heq⟩
    · cases heq
      rw [← hpath]
      exact .withdrawal
    · exact nomatch heq
    · cases heq
      rw [← hpath]
      exact .removal admin

/-- Every onboarding that reaches for the central side goes by one identifier, and so does its
repair, which never fails for want of one. -/
theorem settle_goesBy {σ : Type} {v : Verb} {f : Workflow} (hv : v.workflow? = some f)
    (hf : f.operation = .create) (p : RetryPolicy) (w : World σ) (s : σ)
    (hreach : ∃ e ∈ (v.settle p w s).events, e.ToCentral) :
    ∃ id, id ≠ "" ∧ GoesBy f.kind f.request id (v.settle p w s).call.events ∧
      (∀ call reply, .called call reply ∈ (v.settle p w s).repairs.events →
        OnboardingCall f.kind f.request id call) ∧
      ∀ task kind', .logged (.inconsistent task (.missingIdentifier kind')) ∉
        (v.settle p w s).repairs.events := by
  have hcourse : f.Course _ (v.settle p w s).call.events := (Workflow.takes_perform hv p w s).1
  rcases hcourse.goesBy hf with ⟨id, hgoes⟩ | ⟨htasks, hnone⟩
  · refine ⟨id, EntityKind.identifierOf_ne_empty hgoes.mirrored, hgoes, ?_, ?_⟩
    · intro call reply hmem
      obtain ⟨task, htask, id', work, hid, hreach, -⟩ := RepairTask.reaches_of_mem_repairs hmem rfl
      exact (hgoes.tasks task htask).call hid hreach
    · intro reported kind' hmem
      obtain ⟨task, htask, repaired, events, hrepair, hmem, -⟩ :=
        RepairTask.exists_course_of_mem hmem
      exact nomatch (hgoes.tasks task htask).id_eq.symm.trans (hrepair.id_eq_none hmem)
  · obtain ⟨e, he, hcentral⟩ := hreach
    have hrepairs : (v.settle p w s).repairs = _ := Activity.settle_of_nil htasks
    rw [Settled.events, hrepairs, List.append_nil] at he
    exact absurd hcentral (hnone e he)

/-- The body names no identifier, the local catalogue assigns one, and the adapter cannot be
registered: the item is taken back under the identifier that it was given. -/
theorem settle_goesBy_assigned :
    let given := Document.ofMembers
      [("results", .array [.object [("id", .string "aqm"), ("label", .string "Air quality")]])]
    let server := Document.ofMembers [("resourceServerRegURL", .string "http://rs")]
    let request : Request := ⟨.ofMembers [("label", .string "Air quality")], none, ⟨"token"⟩⟩
    let script := ((Script.empty.addCalls (.create .localSide) [.ok given] none).addCalls
      (.related .localSide) [] (some (.ok server))).addCalls .register []
        (some (.error (.status 500 "down")))
    let taken := (Verb.onboardItem request.body request.token).settle .standard Script.world script
    (∃ e ∈ taken.events, e.ToCentral) ∧ ∃ id, id ≠ "" ∧
      GoesBy .item request id taken.call.events ∧
      (∀ call reply, .called call reply ∈ taken.repairs.events →
        OnboardingCall .item request id call) ∧
      Event.tasks taken.call.events = [.rollback id request.token] := by
  intro given server request script taken
  have htasks : Event.tasks taken.call.events = [.rollback "aqm" request.token] := by
    decide +kernel
  have hminted : (taken.events.any fun e => match e with
      | .minted _ => true
      | _ => false) = true := by decide +kernel
  have hreach : ∃ e ∈ taken.events, e.ToCentral := by
    obtain ⟨e, he, hmatch⟩ := List.any_eq_true.mp hminted
    cases e with
    | minted reply => exact ⟨_, he, trivial⟩
    | _ => exact nomatch hmatch
  obtain ⟨id, hid, hgoes, hcalls, -⟩ :=
    settle_goesBy (v := .onboardItem request.body request.token) rfl rfl .standard Script.world
      script hreach
  have hmem : RepairTask.rollback "aqm" request.token ∈ Event.tasks taken.call.events := by
    rw [htasks]
    exact List.mem_singleton_self _
  obtain rfl := Option.some.inj (hgoes.tasks _ hmem).id_eq
  exact ⟨hreach, _, hid, hgoes, hcalls, htasks⟩

end TwinCatalogue
