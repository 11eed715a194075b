import TwinCatalogue.Proofs.Dispatch.Central
import TwinCatalogue.Proofs.Token.Alike
import TwinCatalogue.Proofs.Token.Signed
import TwinCatalogue.Script

/-! Tokens influence nothing but the calls that carry them. Sequences of steps that differ in the
tokens of their callers, in worlds that mint other tokens, look the same to everybody. -/

namespace TwinCatalogue

namespace WorldPair

variable {σ σ' : Type} {t : WorldPair σ σ'} {p : RetryPolicy} {kind : EntityKind}
  {operation : Operation}

theorem alike_executeLocal (call : StoreCall) (token token' : Token) :
    t.Alike (executeLocal call token) (executeLocal call token') Eq := by
  refine (alike_store .localSide call token token').seq fun reply => ?_
  cases reply with
  | ok doc => exact alike_pure rfl
  | error error => exact (alike_log rfl).seq fun _ => alike_pure rfl

theorem alike_giveUp (request : Request) (token admin admin' : Token) (error : StoreError)
    (attempts : Nat) :
    t.Alike (giveUp kind operation request admin error attempts)
      (giveUp kind operation (request.withToken token) admin' error attempts) Eq := by
  intro s s' hs
  rw [giveUp_run, giveUp_run]
  refine ⟨rfl, ?_, hs⟩
  cases operation <;> rfl

theorem alike_executeCentral (request : Request) (call : StoreCall) (token : Token) :
    t.Alike (executeCentral p kind operation request call)
      (executeCentral p kind operation (request.withToken token) call) Eq := by
  refine alike_mint.bind fun reply reply' hreply => ?_
  rcases SameMint.cases hreply with ⟨error, rfl, rfl⟩ | ⟨admin, admin', rfl, rfl⟩
  · exact (alike_log rfl).seq fun _ => alike_pure rfl
  · have hcall := alike_store (t := t) .centralSide call admin admin'
    refine (alike_retrying hcall).seq fun outcome => ?_
    cases outcome with
    | success doc => exact alike_pure rfl
    | exhausted error attempts => exact alike_giveUp request token admin admin' error attempts
    | aborted error attempts => exact alike_giveUp request token admin admin' error attempts

theorem ofRequest_withToken (request : Request) (token : Token) :
    StoreCall.ofRequest kind operation (request.withToken token) =
      StoreCall.ofRequest kind operation request := by
  cases operation <;> rfl

theorem alike_executeOn (request : Request) (side : Side) (token : Token) :
    t.Alike (executeOn p kind operation request side)
      (executeOn p kind operation (request.withToken token) side) Eq := by
  unfold executeOn
  rw [ofRequest_withToken]
  cases StoreCall.ofRequest kind operation request with
  | none => exact alike_pure rfl
  | some call =>
    cases side with
    | localSide => exact alike_executeLocal call request.token token
    | centralSide => exact alike_executeCentral request call token

section

variable (id : String) (token token' : Token)

theorem alike_resolve : t.Alike (Adapter.resolve id token) (Adapter.resolve id token') Eq := by
  refine (alike_store .localSide _ token token').seq fun reply => ?_
  cases reply with
  | error error => exact alike_pure rfl
  | ok related =>
    dsimp only
    cases Adapter.registrationUrl related with
    | some url => exact alike_pure rfl
    | none => exact alike_pure rfl

theorem alike_register (url : String) :
    t.Alike (Activity.call (.register url id token)) (Activity.call (.register url id token')) Eq :=
  alike_call rfl

theorem alike_deregister (url : String) :
    t.Alike (Activity.call (.deregister url id token)) (Activity.call (.deregister url id token'))
      Eq :=
  alike_call rfl

theorem alike_createAdapter :
    t.Alike (Adapter.create p id token) (Adapter.create p id token') Eq := by
  refine (alike_resolve id token token').seq fun found => ?_
  cases found with
  | error error => exact alike_pure rfl
  | ok url =>
    refine (alike_log rfl).seq fun _ => ?_
    refine (alike_retrying (alike_register id token token' url)).seq fun outcome => ?_
    cases outcome.toExcept with
    | ok doc => exact alike_pure rfl
    | error error =>
      refine (alike_count _).seq fun _ => (alike_log rfl).seq fun _ => ?_
      exact (alike_dispatch rfl).seq fun _ => alike_pure rfl

theorem alike_deleteAdapter :
    t.Alike (Adapter.delete p id token) (Adapter.delete p id token') Eq := by
  refine (alike_resolve id token token').seq fun found => ?_
  cases found with
  | error error => exact alike_pure rfl
  | ok url =>
    refine (alike_log rfl).seq fun _ => ?_
    refine (alike_retrying (alike_deregister id token token' url)).seq fun outcome => ?_
    cases outcome.toExcept with
    | ok doc => exact alike_pure rfl
    | error error =>
      exact (alike_count _).seq fun _ => (alike_log rfl).seq fun _ => alike_pure rfl

end

theorem centralRequest_withToken (request : Request) (created : Document) (token : Token) :
    Onboarding.centralRequest kind (request.withToken token) created =
      (Onboarding.centralRequest kind request created).map
        fun central => (central.1.withToken token, central.2) := by
  unfold Onboarding.centralRequest
  rw [show (request.withToken token).identifier kind = request.identifier kind from rfl]
  cases request.identifier kind with
  | some id => rfl
  | none => cases created.firstResult.bind kind.identifierOf <;> rfl

theorem alike_createBoth (request : Request) (token : Token) :
    t.Alike (Onboarding.createBoth p kind request)
      (Onboarding.createBoth p kind (request.withToken token)) Eq := by
  refine (alike_executeOn request .localSide token).seq fun created => ?_
  cases created with
  | error error => exact alike_pure rfl
  | ok created =>
    dsimp only
    rw [centralRequest_withToken]
    cases Onboarding.centralRequest kind request created with
    | none => exact alike_pure rfl
    | some central =>
      refine (alike_log rfl).seq fun _ => ?_
      refine (alike_executeOn central.1 .centralSide token).seq fun written => ?_
      cases written with
      | error error => exact alike_pure rfl
      | ok doc => exact alike_pure rfl

theorem alike_restoreAdapter (request : Request) (token : Token) :
    t.Alike (Onboarding.restoreAdapter kind request)
      (Onboarding.restoreAdapter kind (request.withToken token)) Eq := by
  cases kind with
  | item => exact (alike_count _).seq fun _ => alike_dispatch rfl
  | inst => exact alike_pure rfl
  | domain => exact alike_pure rfl

theorem alike_deleteBoth (request : Request) (adapterRemoved : Bool) (token : Token) :
    t.Alike (Onboarding.deleteBoth p kind request adapterRemoved)
      (Onboarding.deleteBoth p kind (request.withToken token) adapterRemoved) Eq := by
  refine (alike_executeOn request .localSide token).seq fun deleted => ?_
  cases deleted with
  | ok doc => exact alike_executeOn request .centralSide token
  | error error =>
    cases adapterRemoved with
    | false => exact alike_pure rfl
    | true => exact (alike_restoreAdapter request token).seq fun _ => alike_pure rfl

section

variable (token token' : Token)

theorem alike_onboard (body : Document) (path : Option String) :
    t.Alike (Onboarding.onboard p kind body path token)
      (Onboarding.onboard p kind body path token') Eq := by
  refine (alike_createBoth ⟨body, path, token⟩ token').seq fun created => ?_
  cases created with
  | error error => exact alike_pure rfl
  | ok created => exact alike_pure rfl

theorem alike_onboardItem (body : Document) :
    t.Alike (Onboarding.onboardItem p body token) (Onboarding.onboardItem p body token') Eq := by
  refine (alike_createBoth ⟨body, none, token⟩ token').seq fun created => ?_
  cases created with
  | error error => exact alike_pure rfl
  | ok created =>
    refine (alike_createAdapter created.2 token token').seq fun registered => ?_
    cases registered with
    | error error => exact alike_pure rfl
    | ok answer => exact alike_pure rfl

theorem alike_offboardItem (id : String) :
    t.Alike (Onboarding.offboardItem p id token) (Onboarding.offboardItem p id token') Eq := by
  refine (alike_deleteAdapter id token token').seq fun deregistered => ?_
  cases deregistered with
  | error error => exact alike_pure rfl
  | ok answer => exact alike_deleteBoth (.forId .item id none token) true token'

theorem alike_offboard (id : String) (path : Option String) :
    t.Alike (Onboarding.offboard p kind id path token)
      (Onboarding.offboard p kind id path token') Eq := by
  unfold Onboarding.offboard
  split
  · exact alike_offboardItem token token' id
  · exact alike_deleteBoth (.forId kind id path token) false token'

end

theorem alike_perform (v : Verb) (token : Token) :
    t.Alike (v.perform p) ((v.withToken token).perform p) Eq := by
  cases v with
  | execute kind operation request target =>
    simp only [Verb.withToken, Verb.perform, execute]
    cases Side.parse? target with
    | none => exact alike_pure rfl
    | some side => exact alike_executeOn request side token
  | executeOn kind operation request side => exact alike_executeOn request side token
  | createAdapter id caller => exact alike_createAdapter id caller token
  | deleteAdapter id caller => exact alike_deleteAdapter id caller token
  | onboard kind body path caller => exact alike_onboard caller token body path
  | onboardItem body caller => exact alike_onboardItem caller token body
  | onboardInstance body path caller => exact alike_onboard caller token body path
  | onboardDomain body caller => exact alike_onboard caller token body none
  | offboard kind id path caller => exact alike_offboard caller token id path
  | offboardItem id caller => exact alike_offboardItem caller token id
  | offboardInstance id path caller => exact alike_offboard caller token id path
  | offboardDomain id caller => exact alike_offboard caller token id none

theorem alike_phase {operation : Activity σ Reply} {operation' : Activity σ' Reply}
    (h : t.Alike operation operation' Eq) :
    t.Alike (RepairTask.phase p operation) (RepairTask.phase p operation') Eq := by
  refine (alike_execute h).seq fun outcome => ?_
  cases outcome.toExcept with
  | ok doc => exact alike_pure rfl
  | error error => exact alike_pure rfl

theorem alike_deletion (side : Side) (id : String) (path : Option String) (token token' : Token) :
    t.Alike (RepairTask.deletion p side kind id path token)
      (RepairTask.deletion p side kind id path token') Eq :=
  alike_phase (alike_store side _ token token')

theorem alike_reregister (id : String) (token token' : Token) :
    t.Alike (RepairTask.reregister p id token) (RepairTask.reregister p id token') Eq := by
  refine (alike_resolve id token token').seq fun found => ?_
  cases found with
  | error error => exact alike_pure rfl
  | ok url => exact alike_phase (alike_register id token token' url)

theorem alike_takeBack (id : String) (token token' : Token) :
    t.Alike (RepairTask.takeBack p id token) (RepairTask.takeBack p id token') Eq := by
  refine (alike_deletion .localSide id none token token').seq fun gone => ?_
  cases gone with
  | error error => exact alike_pure rfl
  | ok _ =>
    refine alike_mint.bind fun reply reply' hreply => ?_
    rcases SameMint.cases hreply with ⟨error, rfl, rfl⟩ | ⟨admin, admin', rfl, rfl⟩
    · exact alike_pure rfl
    · exact alike_deletion .centralSide id none admin admin'

section

variable {task task' : RepairTask} (h : task.anonymous = task'.anonymous)

include h

theorem alike_copyOnce (id : String) (mode : RepairTask.CopyMode) (admin admin' : Token) :
    t.Alike (task.copyOnce id mode admin) (task'.copyOnce id mode admin') Eq := by
  obtain ⟨hkind, -, -, -, -⟩ := RepairTask.anonymous_inj h
  unfold RepairTask.copyOnce
  rw [hkind]
  refine (alike_store .centralSide _ admin admin').seq fun reply => ?_
  cases reply with
  | error error => exact alike_pure rfl
  | ok fetched =>
    dsimp only
    cases fetched.restorable task'.kind id with
    | none => exact alike_pure rfl
    | some entity => exact alike_store .localSide _ task.token task'.token

theorem alike_acquireToken : t.Alike task.acquireToken task'.acquireToken SameMint := by
  obtain ⟨-, -, -, -, hadmin⟩ := RepairTask.anonymous_inj h
  unfold RepairTask.acquireToken
  cases hfirst : task.adminToken with
  | none =>
    rw [hfirst, Option.map_none, eq_comm, Option.map_eq_none_iff] at hadmin
    rw [hadmin]
    exact alike_mint
  | some admin =>
    rw [hfirst, Option.map_some, eq_comm, Option.map_eq_some_iff] at hadmin
    obtain ⟨admin', hsecond, -⟩ := hadmin
    rw [hsecond]
    exact alike_pure rfl

theorem alike_copy (id : String) (mode : RepairTask.CopyMode) :
    t.Alike (task.copy p id mode) (task'.copy p id mode) Eq := by
  refine (alike_acquireToken h).bind fun reply reply' hreply => ?_
  rcases SameMint.cases hreply with ⟨error, rfl, rfl⟩ | ⟨admin, admin', rfl, rfl⟩
  · exact alike_pure rfl
  · exact alike_phase (alike_copyOnce h id mode admin admin')

theorem alike_apply : t.Alike (task.apply p) (task'.apply p) Eq := by
  obtain ⟨hkind, haction, hid, hpath, -⟩ := RepairTask.anonymous_inj h
  unfold RepairTask.apply
  rw [hid, hkind]
  cases task'.id with
  | none => exact alike_pure rfl
  | some id =>
    dsimp only
    unfold RepairTask.perform
    rw [haction]
    cases task'.action with
    | deleteLocal =>
      rw [hkind, hpath]
      exact alike_deletion .localSide id task'.path task.token task'.token
    | restoreLocalFromCentral => exact alike_copy h id .update
    | recreateLocalFromCentral => exact alike_copy h id .create
    | recreateAdapter => exact alike_reregister id task.token task'.token
    | rollbackItem => exact alike_takeBack id task.token task'.token

theorem alike_run : t.Alike (task.run p) (task'.run p) Eq := by
  refine (alike_apply h).seq fun result => ?_
  rcases result with error | _
  · have hentry : (LogEntry.inconsistent task error).anonymous =
        (LogEntry.inconsistent task' error).anonymous := by
      rw [LogEntry.anonymous, LogEntry.anonymous, h]
    exact (alike_log hentry).seq fun _ => (alike_count _).seq fun _ => alike_pure rfl
  · have hentry : (LogEntry.reconciled task).anonymous =
        (LogEntry.reconciled task').anonymous := by
      rw [LogEntry.anonymous, LogEntry.anonymous, h]
    exact (alike_log hentry).seq fun _ => (alike_count _).seq fun _ => alike_pure rfl

end

theorem alike_runAll {tasks tasks' : List RepairTask}
    (h : tasks.map RepairTask.anonymous = tasks'.map RepairTask.anonymous) :
    t.Alike (RepairTask.runAll p tasks) (RepairTask.runAll p tasks') Eq := by
  induction tasks generalizing tasks' with
  | nil =>
    rw [List.map_nil, eq_comm, List.map_eq_nil_iff] at h
    rw [h]
    exact alike_pure rfl
  | cons task rest ih =>
    cases tasks' with
    | nil => exact nomatch h
    | cons task' rest' =>
      obtain ⟨hhead, htail⟩ := List.cons.inj h
      exact (alike_run hhead).seq fun repaired => (ih htail).seq fun others => alike_pure rfl

theorem settle_sameShown (v : Verb) (token : Token) {s : σ} {s' : σ'} (hs : t.Linked s s') :
    (v.settle p t.first s).SameShown ((v.withToken token).settle p t.second s') ∧
      t.Linked (v.settle p t.first s).repairs.after
        ((v.withToken token).settle p t.second s').repairs.after := by
  obtain ⟨hresult, hevents, hafter⟩ := alike_perform (p := p) v token s s' hs
  have htasks := congrArg Event.tasks hevents
  rw [Event.tasks_map_anonymous, Event.tasks_map_anonymous] at htasks
  obtain ⟨hrepaired, hrepairs, hend⟩ := alike_runAll (p := p) htasks _ _ hafter
  exact ⟨Settled.sameShown hresult hrepaired hevents hrepairs, hend⟩

end WorldPair

/-- Steps one after the other, each from where the repairs of the one before have left the world. -/
def Verb.settleAll {σ : Type} (p : RetryPolicy) (w : World σ) :
    List Verb → σ → List (Settled σ (Except OnboardError Document))
  | [], _ => []
  | v :: rest, s => v.settle p w s :: settleAll p w rest (v.settle p w s).repairs.after

theorem Verb.settleAll_signed {σ : Type} (p : RetryPolicy) (w : World σ) (vs : List Verb) (s : σ) :
    List.Forall₂ (fun v settled => ∀ e ∈ settled.events, e.isCall = true →
      e.Signed v.token settled.events) vs (Verb.settleAll p w vs s) := by
  induction vs generalizing s with
  | nil => exact .nil
  | cons v rest ih => exact .cons (v.settle_signed p w s) (ih _)

/-- Callers' tokens go to the local catalogue and the resource servers only, minted ones to the
central catalogue; and other tokens in their places change nothing else. -/
theorem settleAll_tokens {σ σ' : Type} (t : WorldPair σ σ') (p : RetryPolicy)
    (calls : List (Verb × Token)) {s : σ} {s' : σ'} (hs : t.Linked s s') :
    let vs := calls.map Prod.fst
    let vs' := calls.map fun call => call.1.withToken call.2
    List.Forall₂ (fun v settled => ∀ e ∈ settled.events, e.isCall = true →
      e.Signed v.token settled.events) vs (Verb.settleAll p t.first vs s) ∧
    List.Forall₂ Settled.SameShown (Verb.settleAll p t.first vs s)
      (Verb.settleAll p t.second vs' s') := by
  intro vs vs'
  refine ⟨Verb.settleAll_signed p t.first vs s, ?_⟩
  induction calls generalizing s s' with
  | nil => exact .nil
  | cons call rest ih =>
    obtain ⟨hshown, hend⟩ := WorldPair.settle_sameShown (p := p) call.1 call.2 hs
    exact .cons hshown (ih hend)

namespace Script

/-- Scripts that lay down the same replies, and tokens for the same requests. -/
def SameButTokens (s s' : Script) : Prop :=
  s.calls = s'.calls ∧
    s.tokens.waiting.map (Except.map Token.anonymous) =
      s'.tokens.waiting.map (Except.map Token.anonymous) ∧
    s.tokens.standing.map (Except.map Token.anonymous) =
      s'.tokens.standing.map (Except.map Token.anonymous)

theorem endpoint_anonymous (call : Call) : call.anonymous.endpoint = call.endpoint := by
  cases call with
  | store side call token => cases call <;> rfl
  | register url id token => rfl
  | deregister url id token => rfl

theorem mint_sameButTokens {s s' : Script} (h : s.SameButTokens s') :
    (world.mint s).1.map Token.anonymous = (world.mint s').1.map Token.anonymous ∧
      (world.mint s).2.SameButTokens (world.mint s').2 := by
  obtain ⟨hcalls, hwaiting, hstanding⟩ := h
  obtain ⟨calls, waiting, standing⟩ := s
  obtain ⟨calls', waiting', standing'⟩ := s'
  cases waiting with
  | nil =>
    cases waiting' with
    | cons reply' rest' => exact nomatch hwaiting
    | nil =>
      refine ⟨?_, hcalls, rfl, hstanding⟩
      cases standing with
      | none =>
        cases standing' with
        | none => rfl
        | some reply' => exact nomatch hstanding
      | some reply =>
        cases standing' with
        | none => exact nomatch hstanding
        | some reply' => exact Option.some.inj hstanding
  | cons reply rest =>
    cases waiting' with
    | nil => exact nomatch hwaiting
    | cons reply' rest' =>
      obtain ⟨hreply, hrest⟩ := List.cons.inj hwaiting
      exact ⟨hreply, hcalls, hrest, hstanding⟩

def tokenPair : WorldPair Script Script where
  first := world
  second := world
  Linked := SameButTokens
  answer {call call' s s'} h hs := by
    have hend : call.endpoint = call'.endpoint := by
      rw [← endpoint_anonymous call, h, endpoint_anonymous]
    obtain ⟨hcalls, htokens⟩ := hs
    have hreply : (world.answer call s).1 = (world.answer call' s').1 := by
      change (Replies.next _ (s.calls _)).1 = (Replies.next _ (s'.calls _)).1
      rw [hend, hcalls]
    refine ⟨hreply, ?_, htokens⟩
    change (s.setCalls _ (Replies.next _ (s.calls _)).2).calls =
      (s'.setCalls _ (Replies.next _ (s'.calls _)).2).calls
    rw [setCalls, setCalls, hend, hcalls]
  mint hs := mint_sameButTokens hs
  draw hs := ⟨rfl, hs⟩

end Script

/-- Two callers in turn, of whom the one gets a domain back that the central catalogue will not
delete, and the other an item taken back that cannot be registered. -/
theorem settleAll_tokens_repaired :
    let server := Document.ofMembers [("resourceServerRegURL", .string "http://rs")]
    let air := Document.ofMembers [("id", .string "air")]
    let found := Document.ofMembers [("results", .array [air.toJson])]
    let script := (((Script.empty.addCalls (.related .localSide) [] (some (.ok server))).addCalls
      (.delete .centralSide) (List.replicate 5 (.error (.status 500 "down"))) none).addCalls
      (.get .centralSide) [] (some (.ok found))).addCalls
      .register [] (some (.error (.timeout "http://rs")))
    let calls : List (Verb × Token) := [(.offboardDomain "air" ⟨"ann"⟩, ⟨"bob"⟩),
      (.onboardItem (.ofMembers [("id", .string "aqm")]) ⟨"cyd"⟩, ⟨"dan"⟩)]
    let one := script.addTokens [] (some (.ok ⟨"one"⟩))
    let two := script.addTokens [] (some (.ok ⟨"two"⟩))
    let run := Verb.settleAll .standard Script.world (calls.map Prod.fst) one
    one.SameButTokens two ∧
    (run.all fun settled => settled.repairs.result == [true]) = true ∧
    List.Forall₂ (fun v settled => ∀ e ∈ settled.events, e.isCall = true →
      e.Signed v.token settled.events) (calls.map Prod.fst) run ∧
    List.Forall₂ Settled.SameShown run (Verb.settleAll .standard Script.world
      (calls.map fun call => call.1.withToken call.2) two) := by
  intro server air found script calls one two run
  have hsame : one.SameButTokens two := ⟨rfl, rfl, rfl⟩
  exact ⟨hsame, by decide +kernel, settleAll_tokens Script.tokenPair .standard calls hsame⟩

end TwinCatalogue
