import TwinCatalogue.Proofs.Catalogue.Repair
import TwinCatalogue.Proofs.Catalogue.Scripted
import TwinCatalogue.Proofs.Dispatch.Central
import TwinCatalogue.Proofs.Events

/-! Central writes of which the reply may be lost. Repairs that read the central catalogue again
end in agreement all the same; the one that deletes does so only if the central catalogue holds
nothing. -/

namespace TwinCatalogue.CatalogueWorld

variable {σ : Type} {w : CatalogueWorld σ} {p : RetryPolicy} {kind : EntityKind}
  {operation : Operation} {request : Request} {id : String} {s : σ}

/-- A retried call that fails with no reply lost has not been carried out by any attempt. -/
theorem retrying_unwritten {call : Call} {error : StoreError}
    (hfailed : ((p.retrying (Activity.call call)).run w.toWorld s).result.toExcept = .error error)
    (hlost : ∀ e ∈ ((p.retrying (Activity.call call)).run w.toWorld s).events, e.lost = false) :
    w.catalogues ((p.retrying (Activity.call call)).run w.toWorld s).after = w.catalogues s := by
  obtain ⟨m, -, ⟨-, hleast⟩, hrun⟩ := p.execute_run true (Activity.call call) w.toWorld s
  have hrun' : (p.retrying (Activity.call call)).run w.toWorld s = _ := hrun
  rw [hrun'] at hfailed hlost ⊢
  rw [RetryPolicy.toExcept_outcome] at hfailed
  -- Every attempt failed, left its reply on record, and has therefore changed nothing.
  have hattempt : ∀ j ≤ m, w.catalogues (p.attempt (Activity.call call) w.toWorld s j).after =
      w.catalogues (p.stateAfter (Activity.call call) w.toWorld s j) := by
    intro j hj
    have herror : ∃ e, (p.attempt (Activity.call call) w.toWorld s j).result = .error e := by
      rcases Nat.eq_or_lt_of_le hj with rfl | hlt
      · exact ⟨error, hfailed⟩
      · exact RetryPolicy.eq_error_of_not_stops (p := p) (n := j + 1)
          fun hstop => absurd (hleast hstop) (by omega)
    obtain ⟨e, he⟩ := herror
    refine heeds_reply he (hlost (.called call (.error e)) ?_)
    have hevent : Event.called call (.error e) ∈
        (p.attempt (Activity.call call) w.toWorld s j).events := by
      rw [p.attempt_call_events, RetryPolicy.replyTo, he]
      exact List.mem_singleton_self _
    rcases Nat.eq_or_lt_of_le hj with rfl | hlt
    · exact List.mem_append_right _ (List.mem_append_left _ hevent)
    · exact List.mem_append_left _ (List.mem_flatMap.mpr
        ⟨j, List.mem_range.mpr hlt, List.mem_append_left _ hevent⟩)
  have hbefore : w.catalogues (p.stateAfter (Activity.call call) w.toWorld s m) =
      w.catalogues s := by
    refine RetryPolicy.stateAfter_invariant (I := fun t => w.catalogues t = w.catalogues s) rfl
      (fun t ht => (w.drawn t).trans ht) m fun j hj ht => ?_
    exact (hattempt j (by omega)).trans ht
  exact (hattempt m le_rfl).trans hbefore

theorem executeOn_central_unwritten {error : OnboardError}
    (hfailed : ((executeOn p kind operation request .centralSide).run w.toWorld s).result =
      .error error)
    (hlost : ∀ e ∈ ((executeOn p kind operation request .centralSide).run w.toWorld s).events,
      e.lost = false) :
    w.catalogues ((executeOn p kind operation request .centralSide).run w.toWorld s).after =
      w.catalogues s := by
  cases hcall : StoreCall.ofRequest kind operation request with
  | none => rw [executeOn_none hcall]
  | some call =>
    have he : executeOn p kind operation request .centralSide =
        (executeCentral p kind operation request call : Activity σ _) := by
      rw [executeOn, hcall]
    rw [he] at hfailed hlost ⊢
    cases hmint : (w.mint s).1 with
    | error e =>
      rw [executeCentral_unminted hmint]
      exact w.minted s
    | ok admin =>
      obtain ⟨m, -, hresult, -⟩ :=
        p.retrying_call (.store .centralSide call admin) w.toWorld (w.mint s).2
      cases hlast : p.replyTo (.store .centralSide call admin) w.toWorld (w.mint s).2 m with
      | ok doc =>
        rw [hlast] at hresult
        rw [executeCentral_run_ok hmint hresult] at hfailed
        cases hfailed
      | error e =>
        rw [hlast] at hresult
        rw [executeCentral_run_error hmint hresult] at hlost ⊢
        refine (retrying_unwritten (by rw [hresult, RetryPolicy.toExcept_outcome]) ?_).trans
          (w.minted s)
        intro e' he'
        exact hlost e' (List.mem_cons_of_mem _ (List.mem_append_left _ he'))

/-- A failed operation that is counted as repaired has handed over the repair of its write, and
the work on that repair has ended well. -/
theorem central_repaired {error : OnboardError}
    (hfailed : ((executeOn p kind operation request .centralSide).run w.toWorld s).result =
      .error error)
    (hrepaired : Event.counted .repaired ∈
      ((executeOn p kind operation request .centralSide).settle p w.toWorld s).repairs.events) :
    ∃ admin task, centralRepair kind operation request admin = [task] ∧
      let call := (executeOn p kind operation request .centralSide).run w.toWorld s
      let work := (task.apply p).run w.toWorld call.after
      work.result = .ok () ∧
        ((executeOn p kind operation request .centralSide).settle p w.toWorld s).repairs.after =
          work.after := by
  have hsome : Event.tasks
      ((executeOn p kind operation request .centralSide).run w.toWorld s).events ≠ [] := by
    intro hnone
    rw [Activity.settle_of_nil hnone] at hrepaired
    exact absurd hrepaired List.not_mem_nil
  obtain ⟨admin, htasks⟩ := (executeOn_central_tasks hfailed).resolve_left hsome
  have hone : ∃ task, centralRepair kind operation request admin = [task] := by
    cases operation with
    | get => exact absurd htasks hsome
    | _ => exact ⟨_, rfl⟩
  obtain ⟨task, htask⟩ := hone
  refine ⟨admin, task, htask, ?_⟩
  rw [htask] at htasks
  rw [Activity.settle_of_single htasks] at hrepaired ⊢
  exact RepairTask.run_repaired hrepaired

/-- A central operation that fails and is counted as repaired ends in agreement if it updates or
deletes, however many replies were lost. If it creates, it does so exactly if the central catalogue
holds nothing when the call returns; that is so if it held nothing before and no reply was lost. -/
theorem settle_central_repaired (p : RetryPolicy) (hid : request.identifier kind = some id) :
    let settled := (executeOn p kind operation request .centralSide).settle p w.toWorld s
    let agreed := (w.catalogues settled.repairs.after).Agree kind id
    (∃ error, settled.call.result = .error error) →
    .counted .repaired ∈ settled.repairs.events →
      if operation = .create then
        (agreed ↔ (w.catalogues settled.call.after).centralSide.held kind id = none) ∧
          ((w.catalogues s).centralSide.held kind id = none →
            (∀ e ∈ settled.call.events, e.lost = false) → agreed)
      else agreed := by
  rintro settled agreed ⟨error, hfailed⟩ hrepaired
  obtain ⟨admin, task, htask, hdone, hafter⟩ := central_repaired hfailed hrepaired
  have hend : agreed ↔
      (w.catalogues ((task.apply p).run w.toWorld settled.call.after).after).Agree kind id :=
    iff_of_eq (congrArg (fun t => (w.catalogues t).Agree kind id) hafter)
  cases operation with
  | create =>
    obtain rfl := (List.cons.inj htask).1
    rw [RepairTask.apply_of_id hid] at hdone hend
    have hheld := ensures_deleteLocal p kind id request.path request.token
      ((w.catalogues settled.call.after).centralSide.held kind id) settled.call.after rfl hdone
    have hiff : agreed ↔ (w.catalogues settled.call.after).centralSide.held kind id = none := by
      rw [hend, ← hheld.2]
      exact Catalogues.agree_none hheld.1
    refine ⟨hiff, fun hbefore hlost => hiff.mpr ?_⟩
    have hsame : w.catalogues settled.call.after = w.catalogues s :=
      executeOn_central_unwritten hfailed hlost
    rw [hsame]
    exact hbefore
  | update =>
    obtain rfl := (List.cons.inj htask).1
    rw [RepairTask.apply_of_id hid] at hdone hend
    exact hend.mpr (ensures_copy p _ id .update settled.call.after trivial hdone)
  | delete =>
    obtain rfl := (List.cons.inj htask).1
    rw [RepairTask.apply_of_id hid] at hdone hend
    exact hend.mpr (ensures_copy p _ id .create settled.call.after trivial hdone)
  | get => exact nomatch htask

theorem exists_error {ε α : Type} {result : Except ε α} (h : result.isOk = false) :
    ∃ error, result = .error error := by
  cases result with
  | ok a => exact nomatch h
  | error e => exact ⟨e, rfl⟩

/-- An item that is refused by the central catalogue is gone from both in the end; one whose
update was carried out without a reply is the new one in both. -/
theorem settle_central_repaired_refused_lost :
    let doc := Document.ofMembers [("id", .string "aqm"), ("label", .string "Air quality")]
    let request : Request := ⟨doc, none, ⟨"token"⟩⟩
    let refused := (executeOn .standard .item .create request .centralSide).settle .standard
      (scripted true).toWorld (⟨.bind .empty .item doc, .empty⟩,
        Script.empty.addCalls (.create .centralSide) [] (some (.error (.status 500 "down"))))
    let lost := (executeOn .standard .item .update request .centralSide).settle .standard
      (scripted true).toWorld (⟨.bind .empty .item doc, .empty⟩,
        Script.empty.addCalls (.update .centralSide) [] (some (.error (.timeout "central"))))
    refused.repairs.after.1.Agree .item "aqm" ∧ lost.repairs.after.1.Agree .item "aqm" := by
  intro doc request refused lost
  have hid : request.identifier .item = some "aqm" := by decide
  have hrefused : Event.counted .repaired ∈ refused.repairs.events := by
    rw [Event.mem_counted_iff]
    decide +kernel
  have hheard : ∀ e ∈ refused.call.events, e.lost = false := by
    have h : refused.call.events.all (fun e => !e.lost) = true := by decide +kernel
    simpa using h
  have hlost : Event.counted .repaired ∈ lost.repairs.events := by
    rw [Event.mem_counted_iff]
    decide +kernel
  refine ⟨(settle_central_repaired .standard hid (exists_error ?_) hrefused).2 rfl hheard, ?_⟩
  · decide +kernel
  · exact settle_central_repaired .standard hid (exists_error (by decide +kernel)) hlost

/-- An item that was created without a reply counts as repaired, while only the central catalogue
holds it. -/
theorem repaired_without_agreement :
    let doc := Document.ofMembers [("id", .string "aqm"), ("label", .string "Air quality")]
    let request : Request := ⟨doc, none, ⟨"token"⟩⟩
    let before : Catalogues := ⟨.bind .empty .item doc, .empty⟩
    let settled := (executeOn .standard .item .create request .centralSide).settle .standard
      (scripted true).toWorld (before,
        Script.empty.addCalls (.create .centralSide) [] (some (.error (.timeout "central"))))
    request.identifier .item = some "aqm" ∧ before.localSide.held .item "aqm" = some doc ∧
      (∃ error, settled.call.result = .error error) ∧
      .counted .repaired ∈ settled.repairs.events ∧
      ¬ settled.repairs.after.1.Agree .item "aqm" := by
  intro doc request before settled
  have hid : request.identifier .item = some "aqm" := by decide
  have hrepaired : Event.counted .repaired ∈ settled.repairs.events := by
    rw [Event.mem_counted_iff]
    decide +kernel
  have hlocal : settled.repairs.after.1.localSide.held .item "aqm" = none :=
    Option.isNone_iff_eq_none.mp (by decide +kernel)
  have hcentral : (settled.repairs.after.1.centralSide.held .item "aqm").isSome = true := by
    decide +kernel
  have hfailed : settled.call.result.isOk = false := by decide +kernel
  refine ⟨hid, Catalogue.held_bind hid, exists_error hfailed, hrepaired, ?_⟩
  rw [Catalogues.agree_none hlocal]
  intro hnone
  rw [hnone] at hcentral
  exact Bool.false_ne_true hcentral

end TwinCatalogue.CatalogueWorld
