import TwinCatalogue.Proofs.Catalogue.Repair
import TwinCatalogue.Proofs.Dispatch.Central

/-! What executing an operation makes of the two catalogues, alone and as part of onboarding and
offboarding, if no failed call is carried out. -/

namespace TwinCatalogue.CatalogueWorld

variable {σ : Type} {w : CatalogueWorld σ} {P Q : Catalogues → Prop} {p : RetryPolicy}
  {kind : EntityKind} {operation : Operation} {request : Request} {call : StoreCall}

theorem ensures_executeOn_local (hcall : StoreCall.ofRequest kind operation request = some call)
    (hok : ∀ c, P c → Q (c.write (.store .localSide call request.token))) :
    w.Ensures (executeOn p kind operation request .localSide) P fun result tasks c =>
      tasks = [] ∧ byResult (fun _ => Q) P result c := by
  rw [executeOn, hcall]
  refine (ensures_call (heeds_of_not_central rfl) hok).seq fun reply => ?_
  cases reply with
  | ok doc => exact ensures_pure fun c hc => ⟨rfl, hc⟩
  | error error => exact (ensures_log (P := P) _).seq fun _ => ensures_pure fun c hc => ⟨rfl, hc⟩

theorem ensures_giveUp (admin : Token) (error : StoreError) (attempts : Nat) :
    w.Ensures (giveUp kind operation request admin error attempts) P fun result tasks c =>
      result = .error (.ofTerminal error) ∧ tasks = centralRepair kind operation request admin ∧
        P c := by
  intro s hs
  rw [giveUp_run]
  exact ⟨rfl, tasks_giveUpEvents _ _ _ _ _ _, hs⟩

theorem ensures_executeOn_central (hw : w.Reliable)
    (hcall : StoreCall.ofRequest kind operation request = some call)
    (hok : ∀ c admin, P c → Q (c.write (.store .centralSide call admin))) :
    w.Ensures (executeOn p kind operation request .centralSide) P fun result tasks c =>
      byResult (fun _ c => tasks = [] ∧ Q c) (fun c => P c ∧
        (tasks = [] ∨ ∃ admin, tasks = centralRepair kind operation request admin)) result c := by
  rw [executeOn, hcall]
  refine (ensures_mint (P := P)).seq fun reply => ?_
  cases reply with
  | error error =>
    exact (ensures_log (P := P) _).seq fun _ => ensures_pure fun c hc => ⟨hc, Or.inl rfl⟩
  | ok admin =>
    have hgive : ∀ error attempts, w.Ensures
        (giveUp kind operation request admin error attempts) P fun result tasks c =>
          byResult (fun _ c => tasks = [] ∧ Q c) (fun c => P c ∧
            (tasks = [] ∨ ∃ admin, tasks = centralRepair kind operation request admin))
              result c := by
      intro error attempts
      refine (ensures_giveUp admin error attempts).mono ?_
      rintro _ tasks c ⟨rfl, htasks, hc⟩
      exact ⟨hc, Or.inr ⟨admin, htasks⟩⟩
    refine (ensures_retrying (hw _) fun c hc => hok c admin hc).seq fun outcome => ?_
    cases outcome with
    | success doc => exact ensures_pure fun c hc => ⟨rfl, hc⟩
    | exhausted error attempts => exact hgive error attempts
    | aborted error attempts => exact hgive error attempts

theorem ensures_createAdapter (id : String) (token : Token) :
    w.Ensures (Adapter.create p id token) P fun result tasks c => P c ∧
      byResult (fun _ _ => tasks = []) (fun _ => tasks = [] ∨ tasks = [.rollback id token])
        result c := by
  refine (ensures_resolve (P := P) id token).seq fun found => ?_
  cases found with
  | error error => exact ensures_pure fun c hc => ⟨hc, Or.inl rfl⟩
  | ok url =>
    refine (ensures_log (P := P) _).seq fun _ => ?_
    have hregister : w.Ensures (p.retrying (Activity.call (.register url id token))) P
        fun outcome tasks c => tasks = [] ∧ byResult (fun _ => P) P outcome.toExcept c :=
      ensures_retrying (heeds_of_not_central rfl) fun c hc => hc
    refine hregister.seq fun outcome => ?_
    cases outcome.toExcept with
    | ok doc => exact ensures_pure fun c hc => ⟨hc, rfl⟩
    | error error =>
      refine (ensures_count (P := P) _).seq fun _ => (ensures_log (P := P) _).seq fun _ => ?_
      refine (ensures_dispatch (P := P) _).bind fun _ tasks => ?_
      refine ensures_pure fun c hc => ⟨hc.2, Or.inr ?_⟩
      rw [hc.1]
      rfl

theorem ensures_deleteAdapter (id : String) (token : Token) :
    w.Ensures (Adapter.delete p id token) P fun _ tasks c => tasks = [] ∧ P c := by
  refine (ensures_resolve (P := P) id token).seq fun found => ?_
  cases found with
  | error error => exact ensures_pure fun c hc => ⟨rfl, hc⟩
  | ok url =>
    refine (ensures_log (P := P) _).seq fun _ => ?_
    have hderegister : w.Ensures (p.retrying (Activity.call (.deregister url id token))) P
        fun outcome tasks c => tasks = [] ∧ byResult (fun _ => P) P outcome.toExcept c :=
      ensures_retrying (heeds_of_not_central rfl) fun c hc => hc
    refine hderegister.seq fun outcome => ?_
    cases outcome.toExcept with
    | ok doc => exact ensures_pure fun c hc => ⟨rfl, hc⟩
    | error error =>
      refine (ensures_count (P := P) _).seq fun _ => (ensures_log (P := P) _).seq fun _ => ?_
      exact ensures_pure fun c hc => ⟨rfl, hc⟩

end TwinCatalogue.CatalogueWorld
