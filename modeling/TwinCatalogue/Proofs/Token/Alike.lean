import TwinCatalogue.Proofs.Token.Anonymous

/-! Runs in two worlds that differ in nothing but tokens. The engine hands tokens on and never looks
at them, so that the runs differ in nothing else either. -/

namespace TwinCatalogue

/-- Two worlds of which linked states give the same answers, whatever tokens come with the calls, and
in which minting succeeds and fails alike. -/
structure WorldPair (σ σ' : Type) where
  first : World σ
  second : World σ'
  Linked : σ → σ' → Prop
  answer : ∀ {call call' s s'}, call.anonymous = call'.anonymous → Linked s s' →
    (first.answer call s).1 = (second.answer call' s').1 ∧
      Linked (first.answer call s).2 (second.answer call' s').2
  mint : ∀ {s s'}, Linked s s' →
    (first.mint s).1.map Token.anonymous = (second.mint s').1.map Token.anonymous ∧
      Linked (first.mint s).2 (second.mint s').2
  draw : ∀ {s s'}, Linked s s' →
    (first.draw s).1 = (second.draw s').1 ∧ Linked (first.draw s).2 (second.draw s').2

/-- Both tokens are there, or both fail to be minted with the same error. -/
def SameMint (reply reply' : Except TokenError Token) : Prop :=
  reply.map Token.anonymous = reply'.map Token.anonymous

namespace WorldPair

variable {σ σ' α β γ δ : Type} {t : WorldPair σ σ'}

/-- From linked states, two activities give results related by `V`, leave the same events up to
tokens, and end in linked states. -/
def Alike (t : WorldPair σ σ') (x : Activity σ α) (x' : Activity σ' β) (V : α → β → Prop) : Prop :=
  ∀ s s', t.Linked s s' → V (x.run t.first s).result (x'.run t.second s').result ∧
    Event.SameButTokens (x.run t.first s).events (x'.run t.second s').events ∧
    t.Linked (x.run t.first s).after (x'.run t.second s').after

section

variable {V : α → β → Prop} {U : γ → δ → Prop}

theorem alike_pure {a : α} {b : β} (h : V a b) :
    t.Alike (pure a : Activity σ α) (pure b : Activity σ' β) V :=
  fun _ _ hs => ⟨h, rfl, hs⟩

theorem Alike.bind {x : Activity σ α} {x' : Activity σ' β} {f : α → Activity σ γ}
    {f' : β → Activity σ' δ} (hx : t.Alike x x' V) (hf : ∀ a b, V a b → t.Alike (f a) (f' b) U) :
    t.Alike (x >>= f) (x' >>= f') U := by
  intro s s' hs
  obtain ⟨hresult, hevents, hafter⟩ := hx s s' hs
  obtain ⟨hresult', hevents', hafter'⟩ := hf _ _ hresult _ _ hafter
  rw [Activity.run_bind, Activity.run_bind]
  refine ⟨hresult', ?_, hafter'⟩
  change List.map _ (_ ++ _) = List.map _ (_ ++ _)
  rw [List.map_append, List.map_append]
  exact congr (congrArg _ hevents) hevents'

end

/-- Two activities with equal results, each followed by what it makes of its own. -/
theorem Alike.seq {x : Activity σ α} {x' : Activity σ' α} {f : α → Activity σ β}
    {f' : α → Activity σ' β} (hx : t.Alike x x' Eq) (hf : ∀ a, t.Alike (f a) (f' a) Eq) :
    t.Alike (x >>= f) (x' >>= f') Eq := by
  refine hx.bind fun a b hab => ?_
  subst hab
  exact hf a

theorem alike_call {call call' : Call} (h : call.anonymous = call'.anonymous) :
    t.Alike (Activity.call call) (Activity.call call') Eq := by
  intro s s' hs
  obtain ⟨hreply, hafter⟩ := t.answer h hs
  refine ⟨hreply, ?_, hafter⟩
  change [Event.called call.anonymous _] = [Event.called call'.anonymous _]
  rw [h, hreply]

theorem alike_store (side : Side) (call : StoreCall) (token token' : Token) :
    t.Alike (Activity.call (.store side call token)) (Activity.call (.store side call token')) Eq :=
  alike_call rfl

theorem alike_mint : t.Alike Activity.mint Activity.mint SameMint := by
  intro s s' hs
  obtain ⟨hreply, hafter⟩ := t.mint hs
  refine ⟨hreply, ?_, hafter⟩
  change [Event.minted _] = [Event.minted _]
  rw [hreply]

theorem alike_log {entry entry' : LogEntry} (h : entry.anonymous = entry'.anonymous) :
    t.Alike (Activity.log entry) (Activity.log entry') Eq := by
  refine fun _ _ hs => ⟨rfl, ?_, hs⟩
  change [Event.logged entry.anonymous] = [Event.logged entry'.anonymous]
  rw [h]

theorem alike_count (counter : Counter) :
    t.Alike (Activity.count counter) (Activity.count counter) Eq :=
  fun _ _ hs => ⟨rfl, rfl, hs⟩

theorem alike_wait (milliseconds : Nat) :
    t.Alike (Activity.wait milliseconds) (Activity.wait milliseconds) Eq :=
  fun _ _ hs => ⟨rfl, rfl, hs⟩

theorem alike_dispatch {task task' : RepairTask} (h : task.anonymous = task'.anonymous) :
    t.Alike (Activity.dispatch task) (Activity.dispatch task') Eq := by
  refine fun _ _ hs => ⟨rfl, ?_, hs⟩
  change [Event.counted .dispatched, .logged (.dispatching task.anonymous),
    .dispatched task.anonymous] = [Event.counted .dispatched,
      .logged (.dispatching task'.anonymous), .dispatched task'.anonymous]
  rw [h]

theorem SameMint.cases {reply reply' : Except TokenError Token} (h : SameMint reply reply') :
    (∃ error, reply = .error error ∧ reply' = .error error) ∨
      ∃ admin admin', reply = .ok admin ∧ reply' = .ok admin' := by
  cases reply with
  | error error =>
    cases reply' with
    | error error' => exact Or.inl ⟨error, rfl, by rw [Except.error.inj h]⟩
    | ok admin' => exact nomatch h
  | ok admin =>
    cases reply' with
    | error error' => exact nomatch h
    | ok admin' => exact Or.inr ⟨admin, admin', rfl, rfl⟩

section

variable {p : RetryPolicy} {counted : Bool}

theorem alike_delay (retry : Nat) : t.Alike (p.delay retry) (p.delay retry) Eq := by
  unfold RetryPolicy.delay
  split
  · have hdraw : t.Alike Activity.draw Activity.draw Eq := by
      intro s s' hs
      obtain ⟨hbits, hafter⟩ := t.draw hs
      exact ⟨hbits, rfl, hafter⟩
    exact hdraw.seq fun bits => alike_pure rfl
  · exact alike_pure rfl

theorem alike_pauseFor (n milliseconds : Nat) (error : StoreError) :
    t.Alike (p.pauseFor counted n error milliseconds) (p.pauseFor counted n error milliseconds)
      Eq := by
  refine (alike_log rfl).seq fun _ => ?_
  cases counted with
  | false => exact alike_wait milliseconds
  | true => exact (alike_count .retries).seq fun _ => alike_wait milliseconds

theorem alike_attempts {operation : Activity σ (Except StoreError α)}
    {operation' : Activity σ' (Except StoreError α)} (h : t.Alike operation operation' Eq)
    (left n : Nat) :
    t.Alike (p.attempts counted operation left n) (p.attempts counted operation' left n) Eq := by
  induction left generalizing n with
  | zero =>
    rw [RetryPolicy.attempts, RetryPolicy.attempts]
    refine h.seq fun reply => ?_
    cases reply with
    | ok value => exact alike_pure rfl
    | error error =>
      dsimp only
      split
      · exact (alike_log rfl).seq fun _ => alike_pure rfl
      · exact alike_pure rfl
  | succ left ih =>
    rw [RetryPolicy.attempts, RetryPolicy.attempts]
    refine h.seq fun reply => ?_
    cases reply with
    | ok value => exact alike_pure rfl
    | error error =>
      dsimp only
      split
      · exact (alike_log rfl).seq fun _ => alike_pure rfl
      · split
        · refine (alike_delay _).seq fun milliseconds => ?_
          exact (alike_pauseFor n milliseconds error).seq fun _ => ih (n + 1)
        · exact alike_pure rfl

theorem alike_execute {operation : Activity σ (Except StoreError α)}
    {operation' : Activity σ' (Except StoreError α)} (h : t.Alike operation operation' Eq) :
    t.Alike (p.execute counted operation) (p.execute counted operation') Eq :=
  alike_attempts h _ _

theorem alike_retrying {operation : Activity σ (Except StoreError α)}
    {operation' : Activity σ' (Except StoreError α)} (h : t.Alike operation operation' Eq) :
    t.Alike (p.retrying operation) (p.retrying operation') Eq :=
  alike_execute h

end

end WorldPair

end TwinCatalogue
