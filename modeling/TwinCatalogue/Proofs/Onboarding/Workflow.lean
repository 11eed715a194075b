import TwinCatalogue.Proofs.Onboarding.Course

/-! The workflows behind the verbs. There are four, each of which writes one entity on the local
and then on the central side. -/

namespace TwinCatalogue

inductive Workflow where
  | onboard (kind : EntityKind) (request : Request)
  | onboardItem (body : Document) (token : Token)
  | offboard (kind : EntityKind) (request : Request)
  | offboardItem (id : String) (token : Token)

def Verb.workflow? : Verb → Option Workflow
  | onboard kind body path token => some (.onboard kind ⟨body, path, token⟩)
  | onboardItem body token => some (.onboardItem body token)
  | onboardInstance body path token => some (.onboard .inst ⟨body, path, token⟩)
  | onboardDomain body token => some (.onboard .domain ⟨body, none, token⟩)
  | offboard kind id path token =>
    if kind = .item then some (.offboardItem id token)
    else some (.offboard kind (.forId kind id path token))
  | offboardItem id token => some (.offboardItem id token)
  | offboardInstance id path token => some (.offboard .inst (.forId .inst id path token))
  | offboardDomain id token => some (.offboard .domain (.forId .domain id none token))
  | _ => none

namespace Workflow

variable {σ : Type}

def kind : Workflow → EntityKind
  | onboard kind _ => kind
  | onboardItem _ _ => .item
  | offboard kind _ => kind
  | offboardItem _ _ => .item

def operation : Workflow → Operation
  | onboard _ _ => .create
  | onboardItem _ _ => .create
  | offboard _ _ => .delete
  | offboardItem _ _ => .delete

def request : Workflow → Request
  | onboard _ request => request
  | onboardItem body token => ⟨body, none, token⟩
  | offboard _ request => request
  | offboardItem id token => Onboarding.itemRequest id token

def Course : Workflow → Except OnboardError Document → List Event → Prop
  | onboard kind request => fun result events =>
    ∃ created, Onboarding.CreateCourse kind request created events ∧ result = created.map Prod.fst
  | onboardItem body token => Onboarding.ItemCreateCourse body token
  | offboard kind request => Onboarding.DeleteCourse kind request
  | offboardItem id token => Onboarding.ItemDeleteCourse id token

theorem takes_perform {v : Verb} {f : Workflow} (h : v.workflow? = some f) (p : RetryPolicy) :
    (v.perform p : Activity σ _).Takes f.Course := by
  cases v with
  | onboard kind body path token =>
    obtain rfl := Option.some.inj h
    exact Onboarding.takes_onboard p kind body path token
  | onboardItem body token =>
    obtain rfl := Option.some.inj h
    exact Onboarding.takes_onboardItem p body token
  | onboardInstance body path token =>
    obtain rfl := Option.some.inj h
    exact Onboarding.takes_onboard p .inst body path token
  | onboardDomain body token =>
    obtain rfl := Option.some.inj h
    exact Onboarding.takes_onboard p .domain body none token
  | offboard kind id path token =>
    rw [Verb.workflow?] at h
    rw [Verb.perform, Onboarding.offboard]
    split at h
    · obtain rfl := Option.some.inj h
      rw [if_pos ‹_›]
      exact Onboarding.takes_offboardItem p id token
    · obtain rfl := Option.some.inj h
      rw [if_neg ‹_›]
      exact Onboarding.takes_deleteBoth p kind _
  | offboardItem id token =>
    obtain rfl := Option.some.inj h
    exact Onboarding.takes_offboardItem p id token
  | offboardInstance id path token =>
    obtain rfl := Option.some.inj h
    exact Onboarding.takes_deleteBoth p .inst _
  | offboardDomain id token =>
    obtain rfl := Option.some.inj h
    exact Onboarding.takes_deleteBoth p .domain _
  | _ => exact nomatch h

end Workflow

end TwinCatalogue
