import TwinCatalogue.Proofs.Adapter.Course
import TwinCatalogue.Proofs.Dispatch.Course
import TwinCatalogue.Verb

/-! The courses of the workflows: the same write on both sides, and for items the adapter before or
after it. -/

namespace TwinCatalogue

namespace Onboarding

variable {σ : Type} {kind : EntityKind} {request : Request}

inductive CreateCourse (kind : EntityKind) (request : Request) :
    Except OnboardError (Document × String) → List Event → Prop
  | refused {error : OnboardError} {events : List Event}
      (hlocal : LocalCourse kind .create request (.error error) events) :
      CreateCourse kind request (.error error) events
  | unnamed {created : Document} {events : List Event}
      (hlocal : LocalCourse kind .create request (.ok created) events)
      (hcentral : centralRequest kind request created = none) :
      CreateCourse kind request (.error (.missingIdentifier kind)) events
  | failed {created : Document} {central : Request} {id : String} {error : OnboardError}
      {first second : List Event} (hlocal : LocalCourse kind .create request (.ok created) first)
      (hcentral : centralRequest kind request created = some (central, id))
      (hwrite : CentralCourse kind .create central (.error error) second) :
      CreateCourse kind request (.error error)
        (first ++ .logged (.createdLocally kind id) :: second)
  | done {created doc : Document} {central : Request} {id : String} {first second : List Event}
      (hlocal : LocalCourse kind .create request (.ok created) first)
      (hcentral : centralRequest kind request created = some (central, id))
      (hwrite : CentralCourse kind .create central (.ok doc) second) :
      CreateCourse kind request (.ok (doc, id))
        (first ++ .logged (.createdLocally kind id) :: second)

def restoreTask (request : Request) : RepairTask :=
  { kind := .item
    operation := .delete
    failed := .localSide
    action := .recreateAdapter
    id := request.identifier .item
    path := request.path
    token := request.token
    adminToken := none }

def restoreEvents (request : Request) : List Event :=
  [.counted .primaryFailures, .counted .dispatched, .logged (.dispatching (restoreTask request)),
    .dispatched (restoreTask request)]

inductive DeleteCourse (kind : EntityKind) (request : Request) :
    Except OnboardError Document → List Event → Prop
  | refused {error : OnboardError} {events : List Event}
      (hlocal : LocalCourse kind .delete request (.error error) events) :
      DeleteCourse kind request (.error error) events
  | passed {doc : Document} {result : Except OnboardError Document} {first second : List Event}
      (hlocal : LocalCourse kind .delete request (.ok doc) first)
      (hwrite : CentralCourse kind .delete request result second) :
      DeleteCourse kind request result (first ++ second)

inductive ItemCreateCourse (body : Document) (token : Token) :
    Except OnboardError Document → List Event → Prop
  | unwritten {error : OnboardError} {events : List Event}
      (hwrite : CreateCourse .item ⟨body, none, token⟩ (.error error) events) :
      ItemCreateCourse body token (.error error) events
  | written {doc answer : Document} {id : String} {first second : List Event}
      (hwrite : CreateCourse .item ⟨body, none, token⟩ (.ok (doc, id)) first)
      (hadapter : Adapter.CreateCourse id token (.ok answer) second) :
      ItemCreateCourse body token (.ok doc) (first ++ second)
  | unregistered {doc : Document} {id : String} {error : OnboardError} {first second : List Event}
      (hwrite : CreateCourse .item ⟨body, none, token⟩ (.ok (doc, id)) first)
      (hadapter : Adapter.CreateCourse id token (.error error) second) :
      ItemCreateCourse body token (.error error) (first ++ second)

def itemRequest (id : String) (token : Token) : Request := .forId .item id none token

/-- With its adapter gone, an item that the local catalogue keeps needs it back. -/
inductive ItemDeleteCourse (id : String) (token : Token) :
    Except OnboardError Document → List Event → Prop
  | kept {error : OnboardError} {events : List Event}
      (hadapter : Adapter.DeleteCourse id token (.error error) events) :
      ItemDeleteCourse id token (.error error) events
  | refused {answer : Document} {error : OnboardError} {first second : List Event}
      (hadapter : Adapter.DeleteCourse id token (.ok answer) first)
      (hlocal : LocalCourse .item .delete (itemRequest id token) (.error error) second) :
      ItemDeleteCourse id token (.error error)
        (first ++ (second ++ restoreEvents (itemRequest id token)))
  | passed {answer doc : Document} {result : Except OnboardError Document}
      {first second third : List Event}
      (hadapter : Adapter.DeleteCourse id token (.ok answer) first)
      (hlocal : LocalCourse .item .delete (itemRequest id token) (.ok doc) second)
      (hwrite : CentralCourse .item .delete (itemRequest id token) result third) :
      ItemDeleteCourse id token result (first ++ (second ++ third))

theorem CreateCourse.tasks_ok {written : Document × String} {events : List Event}
    (h : CreateCourse kind request (.ok written) events) : Event.tasks events = [] := by
  cases h with
  | done hlocal hcentral hwrite =>
    rw [Event.tasks_append, hlocal.tasks]
    exact hwrite.tasks_ok

theorem takes_createBoth (p : RetryPolicy) (kind : EntityKind) (request : Request) :
    (createBoth p kind request : Activity σ _).Takes (CreateCourse kind request) := by
  refine (takes_executeOn_local p kind .create request).bind fun created first hlocal => ?_
  cases created with
  | error error =>
    exact Activity.takes_pure_after (.refused hlocal)
  | ok created =>
    dsimp only
    split
    · exact Activity.takes_pure_after (.unnamed hlocal ‹_›)
    · refine (Activity.takes_log _).bind fun _ record hrecord => ?_
      subst hrecord
      refine (takes_executeOn_central p kind .create _).bind fun written second hwrite => ?_
      cases written with
      | error error =>
        refine Activity.takes_pure ?_
        rw [List.append_nil]
        exact .failed hlocal ‹_› hwrite
      | ok doc =>
        refine Activity.takes_pure ?_
        rw [List.append_nil]
        exact .done hlocal ‹_› hwrite

theorem takes_restoreAdapter (request : Request) :
    (restoreAdapter .item request : Activity σ _).Takes
      fun _ events => events = restoreEvents request := by
  refine (Activity.takes_count _).bind fun _ count hcount => ?_
  refine (Activity.takes_dispatch _).mono fun _ handed hhanded => ?_
  rw [hcount, hhanded]
  rfl

theorem takes_deleteBoth (p : RetryPolicy) (kind : EntityKind) (request : Request) :
    (deleteBoth p kind request false : Activity σ _).Takes (DeleteCourse kind request) := by
  refine (takes_executeOn_local p kind .delete request).bind fun deleted first hlocal => ?_
  cases deleted with
  | error error =>
    exact Activity.takes_pure_after (.refused hlocal)
  | ok doc =>
    exact (takes_executeOn_central p kind .delete request).mono fun _ _ hwrite =>
      .passed hlocal hwrite

theorem takes_onboard (p : RetryPolicy) (kind : EntityKind) (body : Document)
    (path : Option String) (token : Token) : (onboard p kind body path token : Activity σ _).Takes
      fun result events => ∃ created, CreateCourse kind ⟨body, path, token⟩ created events ∧
        result = created.map Prod.fst := by
  refine (takes_createBoth p kind _).bind fun created events hcourse => ?_
  cases created with
  | error error =>
    refine Activity.takes_pure ?_
    rw [List.append_nil]
    exact ⟨_, hcourse, rfl⟩
  | ok created =>
    refine Activity.takes_pure ?_
    rw [List.append_nil]
    exact ⟨_, hcourse, rfl⟩

theorem takes_onboardItem (p : RetryPolicy) (body : Document) (token : Token) :
    (onboardItem p body token : Activity σ _).Takes (ItemCreateCourse body token) := by
  refine (takes_createBoth p .item _).bind fun created first hwrite => ?_
  cases created with
  | error error =>
    exact Activity.takes_pure_after (.unwritten hwrite)
  | ok created =>
    refine (Adapter.takes_create p _ token).bind fun answer second hadapter => ?_
    cases answer with
    | error error =>
      refine Activity.takes_pure ?_
      rw [List.append_nil]
      exact .unregistered hwrite hadapter
    | ok answer =>
      refine Activity.takes_pure ?_
      rw [List.append_nil]
      exact .written hwrite hadapter

theorem takes_offboardItem (p : RetryPolicy) (id : String) (token : Token) :
    (offboardItem p id token : Activity σ _).Takes (ItemDeleteCourse id token) := by
  refine (Adapter.takes_delete p id token).bind fun answer first hadapter => ?_
  cases answer with
  | error error =>
    exact Activity.takes_pure_after (.kept hadapter)
  | ok answer =>
    refine (takes_executeOn_local p .item .delete _).bind fun deleted second hlocal => ?_
    cases deleted with
    | error error =>
      refine (takes_restoreAdapter _).bind fun _ restored hrestored => Activity.takes_pure ?_
      rw [hrestored, List.append_nil]
      exact .refused hadapter hlocal
    | ok doc =>
      exact (takes_executeOn_central p .item .delete _).mono fun _ _ hwrite =>
        .passed hadapter hlocal hwrite

end Onboarding

end TwinCatalogue
