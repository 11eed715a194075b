import TwinCatalogue.Proofs.Dispatch.Course
import TwinCatalogue.Proofs.Text.Trim
import TwinCatalogue.Script

/-! Which catalogue a caller's words name, and what executing an operation under such a name does
on the local side: a single call, and nothing more. -/

namespace TwinCatalogue

variable {σ : Type}

namespace Side

/-- A text names a side if nothing but white space lies around the side's name, in letters of any
case. -/
def NamedBy (side : Side) (target : String) : Prop :=
  ∃ word, Text.Surrounds Text.isBlank target.toList word ∧
    word.map Char.toLower = side.name.toList

theorem parse?_eq_some {target : String} {side : Side} :
    parse? target = some side ↔ Text.lowerAscii (Text.trim target) = side.name := by
  rw [parse?]
  generalize Text.lowerAscii (Text.trim target) = word
  by_cases hlocal : word = "local"
  · subst hlocal
    cases side <;> decide
  · by_cases hcentral : word = "central"
    · subst hcentral
      cases side <;> decide
    · cases side <;> simp [name, hlocal, hcentral]

theorem toList_lowerAscii_trim (target : String) : (Text.lowerAscii (Text.trim target)).toList =
    (Text.stripWhile Text.isBlank target.toList).map Char.toLower := by
  simp [Text.lowerAscii, Text.trim]

theorem isBlank_of_mem_word {side : Side} {word : List Char}
    (hname : word.map Char.toLower = side.name.toList) : ∀ c ∈ word, Text.isBlank c = false := by
  have hplain : side.name.toList.all (fun c => !Text.isBlank c) = true := by cases side <;> decide
  intro c hc
  by_contra hblank
  have hlower := Text.toLower_of_isBlank (Bool.not_eq_false _ ▸ hblank)
  have hmem : c.toLower ∈ side.name.toList := hname ▸ List.mem_map_of_mem hc
  rw [hlower] at hmem
  exact hblank (Bool.not_eq_true' _ ▸ List.all_eq_true.mp hplain c hmem)

theorem parse?_eq_some_iff {target : String} {side : Side} :
    parse? target = some side ↔ side.NamedBy target := by
  rw [parse?_eq_some, ← String.toList_inj, toList_lowerAscii_trim]
  constructor
  · intro hname
    exact ⟨_, Text.surrounds_stripWhile _ _, hname⟩
  · rintro ⟨word, hsurrounds, hname⟩
    have hword : word ≠ [] := by
      rintro rfl
      cases side <;> exact absurd hname (by decide)
    have hplain := isBlank_of_mem_word hname
    rw [hsurrounds.stripWhile_eq hword (hplain _ (List.head_mem hword))
      (hplain _ (List.getLast_mem hword)), hname]

instance decidableNamedBy (side : Side) (target : String) : Decidable (side.NamedBy target) :=
  decidable_of_iff _ parse?_eq_some_iff

end Side

/-- A run that makes a single call and passes its reply on, with nothing to count or to repair. -/
structure Episode.PassesOn (e : Episode σ (Except OnboardError Document)) (call : Call)
    (reply : Reply) : Prop where
  calls : e.events.filter Event.isCall = [.called call reply]
  result : e.result = match reply with
    | .ok doc => .ok doc
    | .error error => .error (.store error)
  tasks : Event.tasks e.events = []
  counters : ∀ c, Event.counters c e.events = c

section Execute

variable {p : RetryPolicy} {kind : EntityKind} {operation : Operation} {request : Request}
  {target : String} {side : Side} {call : StoreCall} {w : World σ} {s : σ}

theorem executeLocal_passesOn (call : StoreCall) (token : Token) (w : World σ) (s : σ) :
    ((executeLocal call token).run w s).PassesOn (.store .localSide call token)
      (w.answer (.store .localSide call token) s).1 := by
  rw [executeLocal, Activity.run_bind]
  simp only [Activity.run_call]
  cases (w.answer (.store .localSide call token) s).1 with
  | ok doc => exact ⟨rfl, rfl, rfl, fun c => rfl⟩
  | error error => exact ⟨rfl, rfl, rfl, fun c => rfl⟩

theorem executeOn_local_passesOn (hcall : StoreCall.ofRequest kind operation request = some call) :
    ((executeOn p kind operation request .localSide).run w s).PassesOn
      (.store .localSide call request.token)
      (w.answer (.store .localSide call request.token) s).1 := by
  rw [executeOn, hcall]
  exact executeLocal_passesOn call request.token w s

theorem executeOn_side {side' : Side} {token : Token} {reply : Reply}
    (h : .called (.store side' call token) reply ∈
      ((executeOn p kind operation request side).run w s).events) : side' = side := by
  cases side with
  | localSide =>
    obtain ⟨call', reply', -, heq⟩ :=
      (takes_executeOn_local p kind operation request w s).1.calls h rfl
    cases heq
    rfl
  | centralSide =>
    rcases (takes_executeOn_central p kind operation request w s).1.calls h rfl with
      ⟨reply', heq⟩ | ⟨call', admin, reply', -, -, heq⟩
    · exact nomatch heq
    · cases heq
      rfl

theorem execute_of_namedBy (h : side.NamedBy target) :
    execute p kind operation request target =
      (executeOn p kind operation request side : Activity σ _) := by
  rw [execute, Side.parse?_eq_some_iff.mpr h]

theorem execute_of_not_namedBy (h : ∀ side : Side, ¬ side.NamedBy target) :
    (execute p kind operation request target).run w s =
      ⟨.error (.invalidTarget target), [], s⟩ := by
  have hnone : Side.parse? target = none :=
    Option.eq_none_iff_forall_ne_some.mpr fun side hside => h side (Side.parse?_eq_some_iff.mp hside)
  rw [execute, hnone]
  rfl

end Execute

/-- The contract of the words that callers use for a side. Only the side that they name is called;
words that name none are refused as they stand. On the local side a request is one call, made as
it is, and its reply is the answer. -/
theorem execute_target (p : RetryPolicy) (kind : EntityKind) (operation : Operation)
    (request : Request) (target : String) (w : World σ) (s : σ) :
    let e := (execute p kind operation request target).run w s
    let passes := fun call => e.PassesOn (.store .localSide call request.token)
      (w.answer (.store .localSide call request.token) s).1
    (∀ side call token reply, .called (.store side call token) reply ∈ e.events →
      side.NamedBy target) ∧
    ((∀ side : Side, ¬ side.NamedBy target) →
      e.result = .error (.invalidTarget target) ∧ e.events = []) ∧
    (Side.localSide.NamedBy target →
      match operation, request.identifier kind with
      | .create, _ => passes (.create kind request.body)
      | .update, _ => passes (.update kind request.body)
      | .delete, some id => passes (.delete kind id request.path)
      | .get, some id => passes (.get kind id)
      | _, none => e.result = .error (.missingIdentifier kind) ∧ e.events = []) := by
  intro e passes
  refine ⟨fun side call token reply hmem => ?_, fun hnone => ?_, fun hlocal => ?_⟩
  · by_cases hnamed : ∃ named : Side, named.NamedBy target
    · obtain ⟨named, hnamed⟩ := hnamed
      simp only [e, execute_of_namedBy hnamed] at hmem
      rw [executeOn_side hmem]
      exact hnamed
    · simp only [e, execute_of_not_namedBy (not_exists.mp hnamed)] at hmem
      exact absurd hmem List.not_mem_nil
  · have he : e = _ := execute_of_not_namedBy hnone
    rw [he]
    exact ⟨rfl, rfl⟩
  · have he : e = (executeOn p kind operation request .localSide).run w s := by
      simp only [e, execute_of_namedBy hlocal]
    refine StoreCall.ofRequest_cases (fun call hcall => ?_) fun hcall => ?_
    · simp only [passes, he]
      exact executeOn_local_passesOn hcall
    · rw [he, executeOn_none hcall]
      exact ⟨rfl, rfl⟩

/-- A failure after which the central side would be asked again is passed on at once, and a name
with a zero width space behind it is none. -/
theorem execute_target_mixed_case :
    let error := StoreError.status 500 "down"
    let script := Script.empty.addCalls (.get .localSide) [.error error] none
    let request : Request := ⟨.ofMembers [("id", .string "aqm")], none, ⟨"token"⟩⟩
    let run := fun target => (execute .standard .item .get request target).run Script.world script
    Side.localSide.NamedBy "\tLoCal\u00a0" ∧
      (run "\tLoCal\u00a0").PassesOn (.store .localSide (.get .item "aqm") ⟨"token"⟩) (.error error) ∧
      (∀ side : Side, ¬ side.NamedBy "local\u200b") ∧
      (run "local\u200b").result = .error (.invalidTarget "local\u200b") := by
  intro error script request run
  have hlocal : Side.localSide.NamedBy "\tLoCal\u00a0" := by decide +kernel
  have hnone : ∀ side : Side, ¬ side.NamedBy "local\u200b" := by
    rintro (_ | _) <;> decide +kernel
  have hid : request.identifier .item = some "aqm" := by decide +kernel
  have hpasses := (execute_target .standard .item .get request _ Script.world script).2.2 hlocal
  have hrefused := (execute_target .standard .item .get request _ Script.world script).2.1 hnone
  simp only [hid] at hpasses
  exact ⟨hlocal, hpasses, hnone, hrefused.1⟩

end TwinCatalogue
