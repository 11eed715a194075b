import TwinCatalogue.Proofs.Repair.Copying

/-! Which entity a repair puts into the local catalogue. It has the members of the one that was
fetched, and the identifier of the task under the key of its kind unless something else stands
there. -/

namespace TwinCatalogue

variable {σ : Type}

namespace Document.CopiedAs

variable {kind : EntityKind} {id : String} {entity copy : Document}

theorem eqExcept (h : CopiedAs kind id entity copy) : EqExcept kind.idKey copy entity := by
  rcases h with ⟨-, rfl⟩ | ⟨-, rfl⟩
  · exact .refl _ _
  · intro key hkey
    rw [get?_insert, if_neg hkey]

theorem get?_idKey (h : CopiedAs kind id entity copy) :
    copy.get? kind.idKey = some ((entity.get? kind.idKey).getD (.string id)) := by
  rcases h with ⟨hkey, rfl⟩ | ⟨hkey, rfl⟩
  · obtain ⟨value, hvalue⟩ := Option.isSome_iff_exists.mp hkey
    rw [hvalue, Option.getD_some]
  · rw [get?_insert, if_pos rfl, hkey, Option.getD_none]

theorem get?_idKey_iff (h : CopiedAs kind id entity copy) :
    copy.get? kind.idKey = some (.string id) ↔
      entity.get? kind.idKey = none ∨ entity.get? kind.idKey = some (.string id) := by
  rw [h.get?_idKey]
  cases entity.get? kind.idKey <;> simp

theorem identifierOf_iff (h : CopiedAs kind id entity copy) (hid : id ≠ "") :
    kind.identifierOf copy = some id ↔
      entity.get? kind.idKey = none ∨ kind.identifierOf entity = some id := by
  rcases h with ⟨hkey, rfl⟩ | ⟨hkey, rfl⟩
  · have hsome : copy.get? kind.idKey ≠ none := Option.isSome_iff_ne_none.mp hkey
    simp [hsome]
  · have hcopy : kind.identifierOf (entity.insert kind.idKey (.string id)) = some id :=
      EntityKind.identifierOf_of_get? hid (by rw [get?_insert, if_pos rfl])
    simp [hkey, hcopy]

end Document.CopiedAs

theorem infix_flatMap_of_mem {α β : Type} {f : α → List β} {l : List α} {a : α} (h : a ∈ l) :
    f a <:+: l.flatMap f := by
  obtain ⟨before, after, rfl⟩ := List.append_of_mem h
  exact ⟨before.flatMap f, after.flatMap f, by simp⟩

namespace RepairTask

namespace Round

variable {task : RepairTask} {id : String} {mode : CopyMode} {admin : Token} {r : Round}

/-- Nothing but the copy of a round goes to the local catalogue. -/
theorem written_of_mem {call : StoreCall} {token : Token} {reply : Reply}
    (h : .called (.store .localSide call token) reply ∈ r.calls task id mode admin) :
    ∃ copy, r.written = some (copy, reply) ∧ call = mode.call task.kind copy ∧ token = task.token := by
  obtain ⟨fetched, written⟩ := r
  rcases written with _ | ⟨copy, reply'⟩
  · simp [calls] at h
  · simp only [calls, List.mem_cons, Event.called.injEq, Call.store.injEq, reduceCtorEq, false_and,
      false_or, List.not_mem_nil, or_false, true_and] at h
    obtain ⟨⟨hcall, htoken⟩, rfl⟩ := h
    exact ⟨copy, rfl, hcall, htoken⟩

theorem calls_of_written {answer copy : Document} {reply : Reply} (hfetched : r.fetched = .ok answer)
    (hwritten : r.written = some (copy, reply)) : r.calls task id mode admin =
      [.called (.store .centralSide (.get task.kind id) admin) (.ok answer),
        .called (.store .localSide (mode.call task.kind copy) task.token) reply] := by
  rw [calls, hfetched, hwritten]

end Round

theorem not_local_of_acquireToken {task : RepairTask} {w : World σ} {s : σ} {call : StoreCall}
    {token : Token} {reply : Reply} :
    .called (.store .localSide call token) reply ∉ (task.acquireToken.run w s).events := by
  unfold acquireToken
  cases task.adminToken <;> simp

/-- Whatever a copy writes to the local catalogue is a copy of the entity that was read just before. -/
theorem copied_of_mem {task : RepairTask} {id : String} {mode : CopyMode} (hid : task.id = some id)
    (haction : task.action = mode.action) {p : RetryPolicy} {w : World σ} {s : σ} {call : StoreCall}
    {token : Token} {reply : Reply}
    (h : .called (.store .localSide call token) reply ∈ ((task.run p).run w s).events) :
    ∃ admin answer entity copy, call = mode.call task.kind copy ∧ token = task.token ∧
      [.called (.store .centralSide (.get task.kind id) admin) (.ok answer),
        .called (.store .localSide call token) reply] <:+:
          ((task.run p).run w s).events.filter Event.isCall ∧
      answer.firstResult = some entity ∧ Document.CopiedAs task.kind id entity copy := by
  have hcopy := run_copy hid haction p w s
  have hmem : _ ∈ ((task.run p).run w s).events.filter Event.isCall :=
    List.mem_filter.mpr ⟨h, rfl⟩
  cases hopened : (task.acquireToken.run w s).result with
  | error error =>
    simp only [hopened] at hcopy
    rw [hcopy.1] at hmem
    exact absurd hmem not_local_of_acquireToken
  | ok admin =>
    simp only [hopened] at hcopy
    obtain ⟨k, -, hcalls, -⟩ := hcopy
    rw [hcalls] at hmem ⊢
    rcases List.mem_append.mp hmem with hmem | hmem
    · exact absurd hmem not_local_of_acquireToken
    · obtain ⟨j, hj, hround⟩ := List.mem_flatMap.mp hmem
      obtain ⟨copy, hwritten, rfl, rfl⟩ := Round.written_of_mem hround
      obtain ⟨answer, entity, hfetched, hentity, hcopied⟩ :=
        (Round.faithful_take w _).copied copy reply hwritten
      refine ⟨admin, answer, entity, copy, rfl, rfl, ?_, hentity, hcopied⟩
      rw [← Round.calls_of_written hfetched hwritten]
      exact (infix_flatMap_of_mem (f := fun j =>
        (roundAt p task id mode admin w _ j).calls task id mode admin) hj).trans
          (List.suffix_append _ _).isInfix

/-- What a repair writes to the local catalogue is the entity that it has read just before, up to
its identifier. It carries the identifier of the task exactly if the entity that was read had that
one, or nothing at all, under the key of its kind. -/
theorem run_restores {task : RepairTask} {id : String} {mode : CopyMode} (hid : task.id = some id)
    (haction : task.action = mode.action) (p : RetryPolicy) (w : World σ) (s : σ) {call : StoreCall}
    {token : Token} {reply : Reply}
    (h : .called (.store .localSide call token) reply ∈ ((task.run p).run w s).events) :
    ∃ admin answer entity copy, call = mode.call task.kind copy ∧ token = task.token ∧
      [.called (.store .centralSide (.get task.kind id) admin) (.ok answer),
        .called (.store .localSide call token) reply] <:+:
          ((task.run p).run w s).events.filter Event.isCall ∧
      answer.firstResult = some entity ∧
      (∀ key, key ≠ task.kind.idKey → copy.get? key = entity.get? key) ∧
      (copy.get? task.kind.idKey = some (.string id) ↔
        entity.get? task.kind.idKey = none ∨ entity.get? task.kind.idKey = some (.string id)) ∧
      (id ≠ "" → (task.kind.identifierOf copy = some id ↔
        entity.get? task.kind.idKey = none ∨ task.kind.identifierOf entity = some id)) := by
  obtain ⟨admin, answer, entity, copy, hcall, htoken, hread, hentity, hcopied⟩ :=
    copied_of_mem hid haction h
  exact ⟨admin, answer, entity, copy, hcall, htoken, hread, hentity, hcopied.eqExcept,
    hcopied.get?_idKey_iff, hcopied.identifierOf_iff⟩

/-- The task that brings an instance back whose deletion from the central catalogue was given up. -/
def bringBack (id : String) : RepairTask :=
  ⟨.inst, .delete, .centralSide, .recreateLocalFromCentral, some id, none, ⟨"token"⟩, some ⟨"admin"⟩⟩

/-- The central catalogue answers every reading with this entity. -/
def holding (entity : Document) : Script :=
  Script.empty.addCalls (.get .centralSide) [] (some (.ok entity.found))

theorem created_mem (id : String) (entity : Document) :
    .called (.store .localSide (.create .inst (entity.insertIfAbsent "instanceId" (.string id)))
      ⟨"token"⟩) (.ok Script.success) ∈
        (((bringBack id).run .standard).run Script.world (holding entity)).events := by
  have haction : (bringBack id).action = CopyMode.create.action := rfl
  obtain ⟨k, hk, hcalls, -⟩ := run_copy rfl haction .standard Script.world (holding entity)
  obtain rfl : k = 1 := hk.unique ⟨⟨le_rfl, trivial⟩, fun j hj => hj.1⟩
  refine List.mem_of_mem_filter (p := Event.isCall) ?_
  rw [hcalls]
  exact List.mem_cons_of_mem _ List.mem_cons_self

/-- An entity that has only the generic identifier gets that of its kind. -/
theorem run_restores_generic :
    let entity : Document := .ofMembers [("id", .string "pune"), ("label", .string "Pune")]
    let copy := entity.insert "instanceId" (.string "pune")
    let call := StoreCall.create .inst copy
    let e := ((bringBack "pune").run .standard).run Script.world (holding entity)
    (bringBack "pune").id = some "pune" ∧ (bringBack "pune").action = CopyMode.create.action ∧
      .called (.store .localSide call ⟨"token"⟩) (.ok Script.success) ∈ e.events ∧
      ∃ answer read : Document, answer.firstResult = some read ∧
        (∀ key, key ≠ "instanceId" → copy.get? key = read.get? key) ∧
        copy.get? "instanceId" = some (.string "pune") ∧
        EntityKind.inst.identifierOf copy = some "pune" := by
  intro entity copy call e
  have hmem : .called (.store .localSide call ⟨"token"⟩) (.ok Script.success) ∈ e.events :=
    created_mem "pune" entity
  have haction : (bringBack "pune").action = CopyMode.create.action := rfl
  obtain ⟨admin, answer, read, copy', hcall, -, -, hread, hothers, hkey, hidentifier⟩ :=
    run_restores rfl haction .standard Script.world (holding entity) hmem
  obtain rfl : copy = copy' := (StoreCall.create.inj hcall).2
  have habsent : read.get? "instanceId" = none ∨ read.get? "instanceId" = some (.string "pune") :=
    hkey.mp rfl
  refine ⟨rfl, haction, hmem, answer, read, hread, hothers, rfl, ?_⟩
  refine (hidentifier (by decide)).mpr (habsent.imp_right fun hread => ?_)
  exact EntityKind.identifierOf_of_get? (by decide) hread

/-- A null under the key of the kind stays where it is, and what is created has no identifier. -/
theorem restored_without_identifier :
    let entity : Document := .ofMembers [("instanceId", .null), ("label", .string "Pune")]
    let e := ((bringBack "pune").run .standard).run Script.world (holding entity)
    (bringBack "pune").id = some "pune" ∧
      .called (.store .localSide (.create .inst entity) ⟨"token"⟩) (.ok Script.success) ∈ e.events ∧
      entity.get? "instanceId" = some .null ∧ EntityKind.inst.identifierOf entity = none :=
  ⟨rfl, created_mem "pune" _, rfl, rfl⟩

end RepairTask

end TwinCatalogue
