import TwinCatalogue.Onboarding
import TwinCatalogue.Repair.Run

/-!
The verbs that callers have, and what a whole step of one does: the call itself, and after its
return the repairs that it handed over.
-/

namespace TwinCatalogue

inductive Verb where
  | execute (kind : EntityKind) (operation : Operation) (request : Request) (target : String)
  | executeOn (kind : EntityKind) (operation : Operation) (request : Request) (side : Side)
  | createAdapter (id : String) (token : Token)
  | deleteAdapter (id : String) (token : Token)
  | onboard (kind : EntityKind) (body : Document) (path : Option String) (token : Token)
  | onboardItem (body : Document) (token : Token)
  | onboardInstance (body : Document) (path : Option String) (token : Token)
  | onboardDomain (body : Document) (token : Token)
  | offboard (kind : EntityKind) (id : String) (path : Option String) (token : Token)
  | offboardItem (id : String) (token : Token)
  | offboardInstance (id : String) (path : Option String) (token : Token)
  | offboardDomain (id : String) (token : Token)

variable {σ α : Type}

def Verb.perform (p : RetryPolicy) : Verb → Activity σ (Except OnboardError Document)
  | execute kind operation request target => TwinCatalogue.execute p kind operation request target
  | executeOn kind operation request side => TwinCatalogue.executeOn p kind operation request side
  | createAdapter id token => Adapter.create p id token
  | deleteAdapter id token => Adapter.delete p id token
  | onboard kind body path token => Onboarding.onboard p kind body path token
  | onboardItem body token => Onboarding.onboardItem p body token
  | onboardInstance body path token => Onboarding.onboard p .inst body path token
  | onboardDomain body token => Onboarding.onboard p .domain body none token
  | offboard kind id path token => Onboarding.offboard p kind id path token
  | offboardItem id token => Onboarding.offboardItem p id token
  | offboardInstance id path token => Onboarding.offboard p .inst id path token
  | offboardDomain id token => Onboarding.offboard p .domain id none token

def RepairTask.runAll (p : RetryPolicy) : List RepairTask → Activity σ (List Bool)
  | [] => return []
  | task :: rest => do
    let repaired ← task.run p
    return repaired :: (← runAll p rest)

/-- A call and what follows it: the call until its return, and then the repairs that it handed
over, each with whether it repaired. -/
structure Settled (σ α : Type) where
  call : Episode σ α
  repairs : Episode σ (List Bool)

def Settled.events (s : Settled σ α) : List Event := s.call.events ++ s.repairs.events

def Activity.settle (p : RetryPolicy) (x : Activity σ α) (w : World σ) (s : σ) : Settled σ α :=
  let call := x.run w s
  { call := call
    repairs := (RepairTask.runAll p (Event.tasks call.events)).run w call.after }

def Verb.settle (p : RetryPolicy) (v : Verb) (w : World σ) (s : σ) :
    Settled σ (Except OnboardError Document) :=
  Activity.settle p (v.perform p) w s

end TwinCatalogue
