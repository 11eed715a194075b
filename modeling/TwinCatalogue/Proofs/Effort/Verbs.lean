import TwinCatalogue.Proofs.Adapter.Course
import TwinCatalogue.Proofs.Effort.Work
import TwinCatalogue.Verb

/-! What calls and repairs take. A call asks the local catalogue and the token service directly, a
repair asks for nothing but a token or a server; everything else is asked under the retry policy. -/

namespace TwinCatalogue

namespace Event

/-- What a call asks outside of the retry policy. -/
def AskedByCall : Event → Prop
  | called (.store .localSide _ _) _ => True
  | minted _ => True
  | _ => False

/-- What a repair asks outside of the retry policy. -/
def AskedByRepair : Event → Prop
  | called (.store _ (.related _ _ _) _) _ => True
  | minted _ => True
  | _ => False

end Event

open Activity Event

variable {σ : Type} {p : RetryPolicy} {direct : Event → Prop} {kind : EntityKind}
  {request : Request} {id : String} {token : Token}

theorem within_executeLocal (call : StoreCall) (token : Token) :
    (executeLocal call token : Activity σ _).Within p AskedByCall 1 0 0 := by
  refine (within_call fun _ => trivial).bind fun reply => ?_
  cases reply with
  | ok doc => exact within_pure _
  | error error => exact (within_emit rfl rfl).bind fun _ => within_pure _

theorem within_giveUp (kind : EntityKind) (operation : Operation) (request : Request)
    (admin : Token) (error : StoreError) (attempts : Nat) :
    (giveUp kind operation request admin error attempts : Activity σ _).Within p direct 0 0 0 := by
  refine (within_emit rfl rfl).bind fun _ => (within_emit rfl rfl).bind fun _ => ?_
  split
  · exact (within_dispatch _).bind fun _ => within_pure _
  · exact within_pure _

theorem within_executeCentral (operation : Operation) (call : StoreCall) :
    (executeCentral p kind operation request call : Activity σ _).Within p AskedByCall 1 1 1 := by
  refine (within_mint fun _ => trivial).bind fun reply => ?_
  cases reply with
  | error error => exact (within_emit rfl rfl).bind fun _ => within_pure _
  | ok admin =>
    refine (within_retrying (asks_call _)).bind fun outcome => ?_
    cases outcome with
    | success doc => exact within_pure _
    | exhausted error attempts => exact within_giveUp _ _ _ _ _ _
    | aborted error attempts => exact within_giveUp _ _ _ _ _ _

theorem within_executeOn_local (operation : Operation) :
    (executeOn p kind operation request .localSide : Activity σ _).Within p AskedByCall 1 0 0 := by
  unfold executeOn
  split
  · exact within_pure _
  · exact within_executeLocal _ _

theorem within_executeOn_central (operation : Operation) :
    (executeOn p kind operation request .centralSide : Activity σ _).Within p AskedByCall 1 1 1 := by
  unfold executeOn
  split
  · exact within_pure _
  · exact within_executeCentral _ _

namespace Adapter

theorem within_resolve (h : ∀ reply, direct (.called (lookup id token) reply)) :
    (resolve id token : Activity σ _).Within p direct 1 0 0 := by
  refine (within_call h).bind fun reply => ?_
  cases reply with
  | error error => exact within_pure _
  | ok related =>
    dsimp only
    split
    · exact within_pure _
    · exact within_pure _

theorem within_create : (create p id token : Activity σ _).Within p AskedByCall 1 1 1 := by
  refine (within_resolve fun _ => trivial).bind fun found => ?_
  cases found with
  | error error => exact within_pure _
  | ok url =>
    refine (within_emit rfl rfl).bind fun _ =>
      (within_retrying (asks_call _)).bind fun outcome => ?_
    cases outcome.toExcept with
    | ok doc => exact within_pure _
    | error error =>
      exact (within_emit rfl rfl).bind fun _ => (within_emit rfl rfl).bind fun _ =>
        (within_dispatch _).bind fun _ => within_pure _

theorem within_delete : (delete p id token : Activity σ _).Within p AskedByCall 1 1 1 := by
  refine (within_resolve fun _ => trivial).bind fun found => ?_
  cases found with
  | error error => exact within_pure _
  | ok url =>
    refine (within_emit rfl rfl).bind fun _ =>
      (within_retrying (asks_call _)).bind fun outcome => ?_
    cases outcome.toExcept with
    | ok doc => exact within_pure _
    | error error =>
      exact (within_emit rfl rfl).bind fun _ => (within_emit rfl rfl).bind fun _ => within_pure _

end Adapter

namespace Onboarding

theorem within_createBoth :
    (createBoth p kind request : Activity σ _).Within p AskedByCall 2 1 1 := by
  refine (within_executeOn_local _).bind fun created => ?_
  cases created with
  | error error => exact within_pure _
  | ok created =>
    dsimp only
    split
    · exact within_pure _
    · refine (within_emit rfl rfl).bind fun _ => (within_executeOn_central _).bind fun written => ?_
      cases written with
      | error error => exact within_pure _
      | ok doc => exact within_pure _

theorem within_restoreAdapter :
    (restoreAdapter kind request : Activity σ _).Within p direct 0 0 0 := by
  unfold restoreAdapter
  split
  · exact within_pure _
  · exact (within_emit rfl rfl).bind fun _ => within_dispatch _

theorem within_deleteBoth (adapterRemoved : Bool) :
    (deleteBoth p kind request adapterRemoved : Activity σ _).Within p AskedByCall 2 1 1 := by
  refine (within_executeOn_local _).bind fun deleted => ?_
  cases deleted with
  | error error =>
    cases adapterRemoved with
    | false => exact within_pure _
    | true => exact within_restoreAdapter.bind fun _ => within_pure _
  | ok doc => exact within_executeOn_central _

theorem within_onboard (body : Document) (path : Option String) :
    (onboard p kind body path token : Activity σ _).Within p AskedByCall 2 1 1 := by
  refine within_createBoth.bind fun created => ?_
  cases created with
  | error error => exact within_pure _
  | ok created => exact within_pure _

theorem within_onboardItem (body : Document) :
    (onboardItem p body token : Activity σ _).Within p AskedByCall 3 2 2 := by
  refine within_createBoth.bind fun created => ?_
  cases created with
  | error error => exact within_pure _
  | ok created =>
    refine Adapter.within_create.bind fun answer => ?_
    cases answer with
    | error error => exact within_pure _
    | ok answer => exact within_pure _

theorem within_offboardItem :
    (offboardItem p id token : Activity σ _).Within p AskedByCall 3 2 2 := by
  refine Adapter.within_delete.bind fun answer => ?_
  cases answer with
  | error error => exact within_pure _
  | ok answer => exact within_deleteBoth true

theorem within_offboard (path : Option String) :
    (offboard p kind id path token : Activity σ _).Within p AskedByCall 3 2 2 := by
  unfold offboard
  split
  · exact within_offboardItem
  · exact (within_deleteBoth false).mono

end Onboarding

/-- Whatever the verb, its call takes at most three direct calls and two executions. -/
theorem within_perform (p : RetryPolicy) (v : Verb) :
    (v.perform p : Activity σ _).Within p AskedByCall 3 2 2 := by
  have hside : ∀ kind operation request side,
      (executeOn p kind operation request side : Activity σ _).Within p AskedByCall 3 2 2 := by
    intro kind operation request side
    cases side with
    | localSide => exact (within_executeOn_local _).mono
    | centralSide => exact (within_executeOn_central _).mono
  cases v with
  | execute kind operation request target =>
    rw [Verb.perform, TwinCatalogue.execute]
    cases Side.parse? target with
    | none => exact within_pure _
    | some side => exact hside _ _ _ _
  | executeOn kind operation request side => exact hside _ _ _ _
  | createAdapter id token => exact Adapter.within_create.mono
  | deleteAdapter id token => exact Adapter.within_delete.mono
  | onboard kind body path token => exact (Onboarding.within_onboard _ _).mono
  | onboardItem body token => exact Onboarding.within_onboardItem _
  | onboardInstance body path token => exact (Onboarding.within_onboard _ _).mono
  | onboardDomain body token => exact (Onboarding.within_onboard _ _).mono
  | offboard kind id path token => exact Onboarding.within_offboard _
  | offboardItem id token => exact Onboarding.within_offboardItem
  | offboardInstance id path token => exact Onboarding.within_offboard _
  | offboardDomain id token => exact Onboarding.within_offboard _

namespace RepairTask

theorem within_phase {operation : Activity σ Reply} {load : Nat} (h : operation.Asks load) :
    (phase p operation).Within p direct 0 1 load := by
  rw [← Nat.zero_add load]
  refine (within_retrying h).bind fun outcome => ?_
  cases outcome.toExcept with
  | ok doc => exact within_pure _
  | error error => exact within_pure _

/-- One attempt of a copy reads and writes. -/
theorem asks_copyOnce (task : RepairTask) (id : String) (mode : CopyMode) (admin : Token) :
    (task.copyOnce id mode admin : Activity σ Reply).Asks 2 := by
  intro w s
  rw [copyOnce, Activity.run_bind, Activity.run_call]
  cases (w.answer (.store .centralSide (.get task.kind id) admin) s).1 with
  | error error => simp [isCall]
  | ok fetched =>
    dsimp only
    split
    · simp [isCall]
    · simp [isCall]

theorem within_copy (task : RepairTask) (mode : CopyMode) :
    (copy p task id mode : Activity σ _).Within p AskedByRepair 1 1 2 := by
  have htoken : (task.acquireToken : Activity σ _).Within p AskedByRepair 1 0 0 := by
    unfold acquireToken
    split
    · exact within_pure _
    · exact within_mint fun _ => trivial
  refine htoken.bind fun reply => ?_
  cases reply with
  | error error => exact within_pure _
  | ok admin => exact within_phase (asks_copyOnce _ _ _ _)

theorem within_reregister :
    (reregister p id token : Activity σ _).Within p AskedByRepair 1 1 1 := by
  refine (Adapter.within_resolve fun _ => trivial).bind fun found => ?_
  cases found with
  | error error => exact within_pure _
  | ok url => exact within_phase (asks_call _)

theorem within_takeBack : (takeBack p id token : Activity σ _).Within p AskedByRepair 1 2 2 := by
  refine (within_phase (asks_call _)).bind fun gone => ?_
  cases gone with
  | error error => exact within_pure _
  | ok _ =>
    refine (within_mint fun _ => trivial).bind fun reply => ?_
    cases reply with
    | error error => exact within_pure _
    | ok admin => exact within_phase (asks_call _)

/-- Whatever the repair, it takes at most one direct call and two executions. -/
theorem within_run (p : RetryPolicy) (task : RepairTask) :
    (task.run p : Activity σ _).Within p AskedByRepair 1 2 2 := by
  have happly : (task.apply p : Activity σ _).Within p AskedByRepair 1 2 2 := by
    unfold apply perform
    split
    · exact within_pure _
    · split
      · exact (within_phase (asks_call _)).mono
      · exact (within_copy _ _).mono
      · exact (within_copy _ _).mono
      · exact within_reregister.mono
      · exact within_takeBack
  refine happly.bind fun result => ?_
  cases result with
  | ok _ =>
    exact (within_emit rfl rfl).bind fun _ => (within_emit rfl rfl).bind fun _ => within_pure _
  | error error =>
    exact (within_emit rfl rfl).bind fun _ => (within_emit rfl rfl).bind fun _ => within_pure _

end RepairTask

end TwinCatalogue
