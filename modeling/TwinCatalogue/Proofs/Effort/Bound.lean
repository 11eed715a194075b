import TwinCatalogue.Proofs.Counting.Alarm
import TwinCatalogue.Proofs.Effort.Verbs

/-! How much work a step can be, its repair included, and that it can be as much. -/

namespace TwinCatalogue

open Activity Event

def down : StoreError := .status 500 "down"

/-- A world that counts what it is asked. It answers at the times `up`, is down at all others, and
has a token at any time. -/
def clockwork (up : List Nat) (doc : Document) : World Nat where
  answer _ n := (if n ∈ up then .ok doc else .error down, n + 1)
  mint n := (.ok ⟨"admin"⟩, n + 1)
  draw n := (0, n)

/-- Where an activity leads: its result, the repairs that it hands over, and the world after it. -/
structure Activity.Goes {σ α : Type} (x : Activity σ α) (w : World σ) (s : σ) (a : α)
    (handed : List RepairTask) (t : σ) : Prop where
  result : (x.run w s).result = a
  tasks : Event.tasks (x.run w s).events = handed
  after : (x.run w s).after = t

section

variable {σ α β : Type} {w : World σ} {s t u : σ}

theorem goes_pure (a : α) : (pure a : Activity σ α).Goes w s a [] s := ⟨rfl, rfl, rfl⟩

theorem Activity.Goes.bind {x : Activity σ α} {f : α → Activity σ β} {a : α} {b : β}
    {handed more : List RepairTask} (h : x.Goes w s a handed t) (h' : (f a).Goes w t b more u) :
    (x >>= f).Goes w s b (handed ++ more) u := by
  obtain ⟨hresult, htasks, hafter⟩ := h
  have hrun := Activity.run_bind x f w s
  rw [hresult, hafter] at hrun
  refine ⟨?_, ?_, ?_⟩
  · rw [hrun, h'.result]
  · rw [hrun, Event.tasks_append, htasks, h'.tasks]
  · rw [hrun, h'.after]

theorem goes_log (entry : LogEntry) : (log entry : Activity σ Unit).Goes w s () [] s :=
  ⟨rfl, rfl, rfl⟩

theorem goes_count (counter : Counter) : (count counter : Activity σ Unit).Goes w s () [] s :=
  ⟨rfl, rfl, rfl⟩

theorem goes_dispatch (task : RepairTask) : (dispatch task : Activity σ Unit).Goes w s () [task] s :=
  ⟨rfl, rfl, rfl⟩

end

section

variable {up : List Nat} {doc : Document} {n : Nat} {p : RetryPolicy}

theorem World.Leads.clockwork {events : List Event} {t : Nat}
    (h : (clockwork up doc).Leads n events t) : t = n + calls events := by
  induction h with
  | refl => rfl
  | @called s t events call _ ih =>
    rw [ih, calls, calls, List.filter_cons_of_pos rfl, List.length_cons]
    exact Nat.add_right_comm s 1 _
  | @minted s t events _ ih =>
    rw [ih, calls, calls, List.filter_cons_of_pos rfl, List.length_cons]
    exact Nat.add_right_comm s 1 _
  | drawn _ ih => exact ih
  | noted he _ ih =>
    rw [ih, calls, calls, List.filter_cons_of_neg (Bool.eq_false_iff.mp he)]

/-- The time in this world is the number of calls that have been made. -/
theorem Activity.Goes.calls_eq {α : Type} {x : Activity Nat α} {a : α} {handed : List RepairTask}
    {t : Nat} {T : α → List Event → Prop} (h : x.Goes (clockwork up doc) n a handed t)
    (htakes : x.Takes T) : t = n + calls (x.run (clockwork up doc) n).events :=
  h.after.symm.trans (htakes _ n).2.clockwork

theorem goes_call (call : Call) (h : n ∈ up) :
    (Activity.call call).Goes (clockwork up doc) n (.ok doc) [] (n + 1) :=
  ⟨if_pos h, rfl, rfl⟩

theorem goes_mint : mint.Goes (clockwork up doc) n (.ok ⟨"admin"⟩) [] (n + 1) := ⟨rfl, rfl, rfl⟩

theorem stateAfter_clockwork (p : RetryPolicy) (call : Call) (j : Nat) :
    p.stateAfter (Activity.call call) (clockwork up doc) n j = n + j := by
  induction j with
  | zero => rfl
  | succ j ih =>
    rcases p.delay_after j (clockwork up doc)
      ((Activity.call call).run (clockwork up doc) (n + j)).after with h | h
    · rw [RetryPolicy.stateAfter, ih, h]
      rfl
    · rw [RetryPolicy.stateAfter, ih, h]
      rfl

/-- An execution makes all its attempts if the world is down for all but the last of them. -/
theorem goes_retrying (hretry : p.retryOn down = true) (habort : p.abortOn down = false)
    (call : Call) (hdown : ∀ j, j + 1 < p.attemptLimit → n + j ∉ up) :
    (p.retrying (Activity.call call)).Goes (clockwork up doc) n
      (p.outcome p.attemptLimit
        (if n + (p.attemptLimit - 1) ∈ up then .ok doc else .error down))
      [] (n + p.attemptLimit) := by
  obtain ⟨m, hlimit, ⟨hstop, -⟩, hrun⟩ :=
    p.execute_run true (Activity.call call) (clockwork up doc) n
  have hattempt : p.attempt (Activity.call call) (clockwork up doc) n m =
      (Activity.call call).run (clockwork up doc) (n + m) := by
    rw [RetryPolicy.attempt, stateAfter_clockwork]
  have hlast : p.attemptLimit = m + 1 := by
    by_contra hne
    have hm : m + 1 < p.attemptLimit := by omega
    have hreply : (p.attempt (Activity.call call) (clockwork up doc) n m).result = .error down := by
      rw [hattempt]
      exact if_neg (hdown m hm)
    have hends : p.Stops (m + 1) (.error down : Reply) := hreply ▸ hstop
    exact RetryPolicy.not_stops_iff.mpr ⟨habort, hretry, Nat.ne_of_lt hm⟩ hends
  refine ⟨?_, Event.tasks_of_quiet (Activity.quiet_execute (Activity.quiet_call call) _ _), ?_⟩
  · rw [RetryPolicy.retrying, hrun, hattempt, hlast]
    rfl
  · rw [RetryPolicy.retrying, hrun, hattempt, hlast]
    rfl

theorem goes_retrying_up (hretry : p.retryOn down = true) (habort : p.abortOn down = false)
    (call : Call) (hdown : ∀ j, j + 1 < p.attemptLimit → n + j ∉ up)
    (hup : n + (p.attemptLimit - 1) ∈ up) :
    (p.retrying (Activity.call call)).Goes (clockwork up doc) n (.success doc) []
      (n + p.attemptLimit) := by
  have h : (p.retrying (Activity.call call)).Goes (clockwork up doc) n _ [] _ :=
    goes_retrying hretry habort call hdown
  rw [if_pos hup] at h
  exact h

theorem goes_retrying_down (hretry : p.retryOn down = true) (habort : p.abortOn down = false)
    (call : Call) (hdown : ∀ j, j < p.attemptLimit → n + j ∉ up) :
    (p.retrying (Activity.call call)).Goes (clockwork up doc) n
      (.exhausted down p.attemptLimit) [] (n + p.attemptLimit) := by
  have h : (p.retrying (Activity.call call)).Goes (clockwork up doc) n _ [] _ :=
    goes_retrying hretry habort call fun j hj => hdown j (Nat.lt_of_succ_lt hj)
  rw [if_neg (hdown _ (Nat.sub_lt p.attemptLimit_pos Nat.one_pos)), RetryPolicy.outcome, habort] at h
  exact h

theorem goes_createBoth (hretry : p.retryOn down = true) (habort : p.abortOn down = false)
    {body : Document} {id : String} (token : Token)
    (hid : EntityKind.item.identifierOf body = some id) (hstart : 0 ∈ up)
    (hdown : ∀ j, j + 1 < p.attemptLimit → 2 + j ∉ up) (hup : 2 + (p.attemptLimit - 1) ∈ up) :
    (Onboarding.createBoth p .item ⟨body, none, token⟩).Goes (clockwork up doc) 0
      (.ok (doc, id)) [] (2 + p.attemptLimit) := by
  have hlocal : (executeOn p .item .create ⟨body, none, token⟩ .localSide).Goes (clockwork up doc) 0
      (.ok doc) [] 1 :=
    (goes_call _ hstart).bind (goes_pure _)
  have hcentral : (executeOn p .item .create ⟨body, none, token⟩ .centralSide).Goes
      (clockwork up doc) 1 (.ok doc) [] (2 + p.attemptLimit) :=
    goes_mint.bind ((goes_retrying_up hretry habort _ hdown hup).bind (goes_pure _))
  have hrequest : Onboarding.centralRequest .item ⟨body, none, token⟩ doc =
      some (⟨body, none, token⟩, id) := by
    rw [Onboarding.centralRequest, Request.identifier, hid]
  refine hlocal.bind ?_
  dsimp only
  rw [hrequest]
  exact (goes_log _).bind (hcentral.bind (goes_pure _))

theorem goes_createAdapter (hretry : p.retryOn down = true) (habort : p.abortOn down = false)
    (id : String) {url : String} (token : Token) (hurl : Adapter.registrationUrl doc = some url)
    (hstart : n ∈ up) (hdown : ∀ j, j < p.attemptLimit → n + 1 + j ∉ up) :
    (Adapter.create p id token).Goes (clockwork up doc) n (.error (Adapter.failure down))
      [.rollback id token] (n + 1 + p.attemptLimit) := by
  have hresolve : (Adapter.resolve id token).Goes (clockwork up doc) n (.ok url) [] (n + 1) := by
    refine (goes_call _ hstart).bind ?_
    dsimp only
    rw [hurl]
    exact goes_pure _
  exact hresolve.bind ((goes_log _).bind ((goes_retrying_down hretry habort _ hdown).bind
    ((goes_count _).bind ((goes_log _).bind ((goes_dispatch _).bind (goes_pure _))))))

theorem goes_rollback (hretry : p.retryOn down = true) (habort : p.abortOn down = false)
    (id : String) (token : Token) (hdown : ∀ j, j + 1 < p.attemptLimit → n + j ∉ up)
    (hup : n + (p.attemptLimit - 1) ∈ up)
    (hlater : ∀ j, j < p.attemptLimit → n + p.attemptLimit + 1 + j ∉ up) :
    ((RepairTask.rollback id token).run p).Goes (clockwork up doc) n false []
      (n + p.attemptLimit + 1 + p.attemptLimit) := by
  have hlocal : (RepairTask.deletion p .localSide .item id none token).Goes (clockwork up doc) n
      (.ok ()) [] (n + p.attemptLimit) :=
    (goes_retrying_up hretry habort _ hdown hup).bind (goes_pure _)
  have hcentral : (RepairTask.deletion p .centralSide .item id none ⟨"admin"⟩).Goes
      (clockwork up doc) (n + p.attemptLimit + 1) (.error (.store down)) []
      (n + p.attemptLimit + 1 + p.attemptLimit) :=
    (goes_retrying_down hretry habort _ hlater).bind (goes_pure _)
  have happly : ((RepairTask.rollback id token).apply p).Goes (clockwork up doc) n
      (.error (.store down)) [] (n + p.attemptLimit + 1 + p.attemptLimit) :=
    hlocal.bind (goes_mint.bind hcentral)
  exact happly.bind ((goes_log _).bind ((goes_count _).bind (goes_pure _)))

/-- The worst that can happen: an item is created at the last attempt and cannot be registered, and
its rollback deletes it locally at the last attempt and centrally not at all. -/
theorem calls_worst (hretry : p.retryOn down = true) (habort : p.abortOn down = false)
    {body : Document} {id url : String} (token : Token)
    (hid : EntityKind.item.identifierOf body = some id)
    (hurl : Adapter.registrationUrl doc = some url) :
    let up := [0, p.attemptLimit + 1, p.attemptLimit + 2, 3 * p.attemptLimit + 2]
    calls ((Verb.onboardItem body token).settle p (clockwork up doc) 0).events =
      4 * p.attemptLimit + 4 := by
  intro up
  have hA := p.attemptLimit_pos
  have hup : ∀ k, k ∈ up ↔ k = 0 ∨ k = p.attemptLimit + 1 ∨ k = p.attemptLimit + 2 ∨
      k = 3 * p.attemptLimit + 2 := by
    simp [up]
  have hwrite : (Onboarding.createBoth p .item ⟨body, none, token⟩).Goes (clockwork up doc) 0
      (.ok (doc, id)) [] (2 + p.attemptLimit) :=
    goes_createBoth hretry habort token hid ((hup _).mpr (by omega))
      (fun j hj h => by have := (hup _).mp h; omega) ((hup _).mpr (by omega))
  have hadapter : (Adapter.create p id token).Goes (clockwork up doc) (2 + p.attemptLimit) _ _ _ :=
    goes_createAdapter hretry habort id token hurl ((hup _).mpr (by omega))
      (fun j hj h => by have := (hup _).mp h; omega)
  have hcall : ((Verb.onboardItem body token).perform p).Goes (clockwork up doc) 0
      (.error (Adapter.failure down)) [.rollback id token] (2 + p.attemptLimit + 1 + p.attemptLimit) :=
    hwrite.bind (hadapter.bind (goes_pure _))
  have hrepair : ((RepairTask.rollback id token).run p).Goes (clockwork up doc)
      (2 + p.attemptLimit + 1 + p.attemptLimit) false [] _ :=
    goes_rollback hretry habort id token (fun j hj h => by have := (hup _).mp h; omega)
      ((hup _).mpr (by omega)) (fun j hj h => by have := (hup _).mp h; omega)
  let call := ((Verb.onboardItem body token).perform p).run (clockwork up doc) 0
  let repair := ((RepairTask.rollback id token).run p).run (clockwork up doc)
    (2 + p.attemptLimit + 1 + p.attemptLimit)
  have hcalled : _ = 0 + calls call.events :=
    hcall.calls_eq (Onboarding.takes_onboardItem p body token)
  have hmended : _ = _ + calls repair.events :=
    hrepair.calls_eq ((RepairTask.rollback id token).takes_run p)
  have hrepairs := Activity.settle_of_single (p := p) hcall.tasks
  rw [hcall.after] at hrepairs
  calc calls ((Verb.onboardItem body token).settle p (clockwork up doc) 0).events
      = calls call.events + calls
          (((Verb.onboardItem body token).perform p).settle p (clockwork up doc) 0).repairs.events :=
        calls_append _ _
    _ = calls call.events + calls repair.events := by rw [hrepairs]
    _ = 4 * p.attemptLimit + 4 := by omega

end

theorem Verb.settle_works {σ : Type} (v : Verb) (p : RetryPolicy) (w : World σ) (s : σ) :
    let settled := v.settle p w s
    Works p w AskedByCall 3 2 2 s settled.call.events settled.call.after ∧
      Works p w AskedByRepair 1 2 2 settled.call.after settled.repairs.events
        settled.repairs.after := by
  refine ⟨within_perform p v w s, ?_⟩
  rcases v.settle_cases p w s with ⟨-, hrepairs⟩ | ⟨task, -, hrepairs⟩
  · rw [hrepairs]
    exact .done _
  · rw [hrepairs]
    exact RepairTask.within_run p task w _

/-- Whatever the verb and the replies, the call takes at most three direct calls and two executions
of the policy, and the repair behind it one direct call and two executions; this limits the calls,
the retries and the time. If a policy retries as it does by default, some onboarding of an item makes
all the calls that are allowed. -/
theorem settle_effort (p : RetryPolicy) :
    let cap := max 1 p.maxAttempts.toNat
    (∀ {σ : Type} (v : Verb) (w : World σ) (s : σ),
      let settled := v.settle p w s
      calls settled.events ≤ 4 * cap + 4 ∧
      (Works p w AskedByCall 3 2 2 s settled.call.events settled.call.after ∧
        Works p w AskedByRepair 1 2 2 settled.call.after settled.repairs.events
          settled.repairs.after) ∧
      tally .retries settled.events ≤ 4 * (cap - 1) ∧
      (p.jitter = false → duration settled.events ≤
        4 * ∑ i ∈ Finset.range (cap - 1), p.backoff i)) ∧
    (p.retryOn = StoreError.recoverable → p.abortOn = StoreError.unrecoverable →
      ∃ (body : Document) (token : Token) (w : World Nat),
        calls ((Verb.onboardItem body token).settle p w 0).events = 4 * cap + 4) := by
  intro cap
  have hcap : cap = p.attemptLimit := rfl
  rw [hcap]
  constructor
  · intro σ v w s settled
    have hevents : settled.events = settled.call.events ++ settled.repairs.events := rfl
    obtain ⟨hcall, hrepair⟩ :
        Works p w AskedByCall 3 2 2 s settled.call.events settled.call.after ∧
          Works p w AskedByRepair 1 2 2 settled.call.after settled.repairs.events
            settled.repairs.after := v.settle_works p w s
    refine ⟨?_, ⟨hcall, hrepair⟩, ?_, fun hj => ?_⟩
    · have h := hcall.calls_le
      have h' := hrepair.calls_le
      rw [hevents, calls_append]
      omega
    · have h := hcall.retries_le
      have h' := hrepair.retries_le
      rw [hevents, tally_append]
      omega
    · have h := hcall.duration_le hj
      have h' := hrepair.duration_le hj
      rw [hevents, duration_append]
      omega
  · intro hretry habort
    let doc := Document.ofMembers [("resourceServerRegURL", .string "http://rs")]
    let body := Document.ofMembers [("id", .string "aqm")]
    have hid : EntityKind.item.identifierOf body = some "aqm" := by decide
    have hurl : Adapter.registrationUrl doc = some "http://rs" := by decide
    exact ⟨body, ⟨"token"⟩, _, calls_worst (by rw [hretry]; rfl) (by rw [habort]; rfl) _ hid hurl⟩

theorem settle_effort_standard :
    let p : RetryPolicy := { RetryPolicy.standard with jitter := false }
    ∃ (body : Document) (token : Token) (w : World Nat),
      let settled := (Verb.onboardItem body token).settle p w 0
      calls settled.events = 24 ∧ duration settled.events ≤ 60000 := by
  intro p
  obtain ⟨body, token, w, hcalls⟩ := (settle_effort p).2 rfl rfl
  obtain ⟨-, -, -, hduration⟩ := (settle_effort p).1 (.onboardItem body token) w 0
  have hdelays : ∑ i ∈ Finset.range (max 1 p.maxAttempts.toNat - 1), p.backoff i = 15000 := by
    decide +kernel
  exact ⟨body, token, w, hcalls, (hduration rfl).trans (by rw [hdelays])⟩

end TwinCatalogue
