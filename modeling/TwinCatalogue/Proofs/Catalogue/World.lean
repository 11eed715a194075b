import TwinCatalogue.Proofs.Activity.Leaves
import TwinCatalogue.Proofs.Catalogue.Basic

/-! Worlds that hold the two catalogues, and what activities make of what they hold. A reply that
gets lost on its way leaves open whether a central write was carried out. -/

namespace TwinCatalogue

/-- Errors that leave open whether the other side did what it was asked. -/
def StoreError.lost : StoreError → Bool
  | timeout _ => true
  | transport _ _ => true
  | _ => false

def Event.lost : Event → Bool
  | called _ (.error error) => error.lost
  | _ => false

def Call.isCentral : Call → Bool
  | store .centralSide _ _ => true
  | _ => false

/-- A world that holds both catalogues. A call that succeeds has been carried out, and one that
fails has not, unless it went to the central catalogue and its reply was lost. An entity that the
central catalogue is asked for is the one that it holds. -/
structure CatalogueWorld (σ : Type) extends World σ where
  catalogues : σ → Catalogues
  minted : ∀ s, catalogues (mint s).2 = catalogues s
  drawn : ∀ s, catalogues (draw s).2 = catalogues s
  done : ∀ call s doc, (answer call s).1 = .ok doc →
    catalogues (answer call s).2 = (catalogues s).write call
  failed : ∀ call s error, (answer call s).1 = .error error →
    catalogues (answer call s).2 = catalogues s ∨
      call.isCentral = true ∧ error.lost = true ∧
        catalogues (answer call s).2 = (catalogues s).write call
  fetched : ∀ kind id token s doc,
    (answer (.store .centralSide (.get kind id) token) s).1 = .ok doc →
      ∃ stored, (catalogues s).centralSide.held kind id = some stored ∧ doc = stored.found

namespace CatalogueWorld

variable {σ α β : Type} {w : CatalogueWorld σ}

/-- A call that is not carried out when it fails. -/
def Heeds (w : CatalogueWorld σ) (call : Call) : Prop :=
  ∀ s error, (w.answer call s).1 = .error error →
    w.catalogues (w.answer call s).2 = w.catalogues s

/-- No call is carried out when it fails. -/
def Reliable (w : CatalogueWorld σ) : Prop := ∀ call, w.Heeds call

theorem heeds_of_not_central {call : Call} (h : call.isCentral = false) : w.Heeds call := by
  intro s error he
  rcases w.failed call s error he with hs | ⟨hc, -, -⟩
  · exact hs
  · exact absurd (h.symm.trans hc) Bool.false_ne_true

theorem heeds_get (kind : EntityKind) (id : String) (token : Token) :
    w.Heeds (.store .centralSide (.get kind id) token) := by
  intro s error he
  rcases w.failed _ s error he with hs | ⟨-, -, hs⟩
  · exact hs
  · exact hs

/-- A call that fails with no reply lost is not carried out. -/
theorem heeds_reply {call : Call} {s : σ} {error : StoreError}
    (he : (w.answer call s).1 = .error error) (hl : error.lost = false) :
    w.catalogues (w.answer call s).2 = w.catalogues s := by
  rcases w.failed call s error he with hs | ⟨-, h, -⟩
  · exact hs
  · exact absurd (hl.symm.trans h) Bool.false_ne_true

/-- Whenever the catalogues meet a condition before an activity, its result, the repairs that it
hands over and the catalogues after it meet another. -/
def Ensures (w : CatalogueWorld σ) (x : Activity σ α) (P : Catalogues → Prop)
    (Q : α → List RepairTask → Catalogues → Prop) : Prop :=
  ∀ s, P (w.catalogues s) →
    Q (x.run w.toWorld s).result (Event.tasks (x.run w.toWorld s).events)
      (w.catalogues (x.run w.toWorld s).after)

def byResult {ε : Type} (R : α → Catalogues → Prop) (P : Catalogues → Prop) :
    Except ε α → Catalogues → Prop
  | .ok a => R a
  | .error _ => P

theorem byResult.mono {ε : Type} {R R' : α → Catalogues → Prop} {P P' : Catalogues → Prop}
    {result : Except ε α} {c : Catalogues} (h : byResult R P result c)
    (hR : ∀ a, R a c → R' a c) (hP : P c → P' c) : byResult R' P' result c := by
  cases result with
  | ok a => exact hR a h
  | error e => exact hP h

variable {P : Catalogues → Prop} {R : α → Catalogues → Prop}

theorem ensures_pure {a : α} {Q : α → List RepairTask → Catalogues → Prop}
    (h : ∀ c, P c → Q a [] c) : w.Ensures (pure a : Activity σ α) P Q :=
  fun _ hs => h _ hs

theorem ensures_pure_after {b : β} {tasks : List RepairTask}
    {Q : β → List RepairTask → Catalogues → Prop} (h : ∀ c, P c → Q b tasks c) :
    w.Ensures (pure b : Activity σ β) P fun b rest c => Q b (tasks ++ rest) c := by
  refine ensures_pure fun c hc => ?_
  rw [List.append_nil]
  exact h c hc

theorem Ensures.mono {x : Activity σ α} {Q Q' : α → List RepairTask → Catalogues → Prop}
    (hx : w.Ensures x P Q) (h : ∀ a tasks c, Q a tasks c → Q' a tasks c) : w.Ensures x P Q' :=
  fun s hs => h _ _ _ (hx s hs)

theorem Ensures.bind {x : Activity σ α} {f : α → Activity σ β}
    {Q : α → List RepairTask → Catalogues → Prop} {Q' : β → List RepairTask → Catalogues → Prop}
    (hx : w.Ensures x P Q)
    (hf : ∀ a tasks, w.Ensures (f a) (Q a tasks) fun b rest c => Q' b (tasks ++ rest) c) :
    w.Ensures (x >>= f) P Q' := by
  intro s hs
  rw [Activity.run_bind, Event.tasks_append]
  exact hf _ _ _ (hx s hs)

/-- An activity that hands over no repair, and another one after it. -/
theorem Ensures.seq {x : Activity σ α} {f : α → Activity σ β}
    {Q : β → List RepairTask → Catalogues → Prop}
    (hx : w.Ensures x P fun a tasks c => tasks = [] ∧ R a c)
    (hf : ∀ a, w.Ensures (f a) (R a) Q) : w.Ensures (x >>= f) P Q := by
  refine hx.bind fun a tasks => ?_
  rintro s ⟨rfl, hs⟩
  exact hf a s hs

theorem ensures_log (entry : LogEntry) :
    w.Ensures (Activity.log entry) P fun _ tasks c => tasks = [] ∧ P c :=
  fun _ hs => ⟨rfl, hs⟩

theorem ensures_count (counter : Counter) :
    w.Ensures (Activity.count counter) P fun _ tasks c => tasks = [] ∧ P c :=
  fun _ hs => ⟨rfl, hs⟩

theorem ensures_dispatch (task : RepairTask) :
    w.Ensures (Activity.dispatch task) P fun _ tasks c => tasks = [task] ∧ P c :=
  fun _ hs => ⟨rfl, hs⟩

theorem ensures_mint : w.Ensures Activity.mint P fun _ tasks c => tasks = [] ∧ P c := by
  intro s hs
  refine ⟨rfl, ?_⟩
  rw [Activity.run_mint, w.minted]
  exact hs

theorem ensures_call {call : Call} {Q : Catalogues → Prop} (hc : w.Heeds call)
    (hok : ∀ c, P c → Q (c.write call)) :
    w.Ensures (Activity.call call) P fun reply tasks c =>
      tasks = [] ∧ byResult (fun _ => Q) P reply c := by
  intro s hs
  rw [Activity.run_call]
  refine ⟨rfl, ?_⟩
  cases hr : (w.answer call s).1 with
  | ok doc =>
    rw [w.done call s doc hr]
    exact hok _ hs
  | error error =>
    rw [hc s error hr]
    exact hs

theorem ensures_get (kind : EntityKind) (id : String) (token : Token) :
    w.Ensures (Activity.call (.store .centralSide (.get kind id) token)) P
      fun reply tasks c => tasks = [] ∧ P c ∧ ∀ doc, reply = .ok doc →
        ∃ stored, c.centralSide.held kind id = some stored ∧ doc = stored.found := by
  intro s hs
  rw [Activity.run_call]
  have hsame : w.catalogues (w.answer (.store .centralSide (.get kind id) token) s).2 =
      w.catalogues s := by
    cases hr : (w.answer (.store .centralSide (.get kind id) token) s).1 with
    | ok doc => exact w.done _ s doc hr
    | error error => exact heeds_get kind id token s error hr
  refine ⟨rfl, ?_⟩
  dsimp only
  rw [hsame]
  exact ⟨hs, fun doc hdoc => w.fetched kind id token s doc hdoc⟩

theorem ensures_execute {p : RetryPolicy} {counted : Bool}
    {operation : Activity σ (Except StoreError α)} (hquiet : operation.Leaves Event.Quiet)
    (hop : w.Ensures operation P fun reply _ => byResult R P reply) :
    w.Ensures (p.execute counted operation) P fun outcome tasks c =>
      tasks = [] ∧ byResult R P outcome.toExcept c := by
  intro s hs
  refine ⟨Event.tasks_of_quiet (Activity.quiet_execute hquiet w.toWorld s), ?_⟩
  obtain ⟨t, ht, hresult, hafter⟩ := p.execute_invariant counted
    (I := fun t => P (w.catalogues t)) (w := w.toWorld) hs
    (fun t ht => by rw [w.drawn]; exact ht)
    (fun t e ht he => by have h := hop t ht; rw [he] at h; exact h)
  rw [hresult, hafter]
  exact hop t ht

theorem ensures_retrying {p : RetryPolicy} {call : Call} {Q : Catalogues → Prop}
    (hc : w.Heeds call) (hok : ∀ c, P c → Q (c.write call)) :
    w.Ensures (p.retrying (Activity.call call)) P fun outcome tasks c =>
      tasks = [] ∧ byResult (fun _ => Q) P outcome.toExcept c :=
  ensures_execute (Activity.quiet_call call)
    ((ensures_call hc hok).mono fun _ _ _ h => h.2)

end CatalogueWorld

end TwinCatalogue
