import TwinCatalogue.Activity

/-!
Scripted worlds, in which every remote system answers what was laid down beforehand. A call takes
the first reply that waits at its endpoint; once these are used up, the standing reply; and
without one the call succeeds.
-/

namespace TwinCatalogue

/-- What a call is addressed to, whatever entity it is about. -/
inductive Endpoint where
  | create (side : Side)
  | update (side : Side)
  | delete (side : Side)
  | get (side : Side)
  | related (side : Side)
  | register
  | deregister
  deriving DecidableEq, Repr

namespace Endpoint

def name : Endpoint → String
  | create side => side.name ++ ".create"
  | update side => side.name ++ ".update"
  | delete side => side.name ++ ".delete"
  | get side => side.name ++ ".get"
  | related side => side.name ++ ".get_related"
  | register => "rs.register"
  | deregister => "rs.deregister"

def all : List Endpoint :=
  [create .localSide, update .localSide, delete .localSide, get .localSide, related .localSide,
    create .centralSide, update .centralSide, delete .centralSide, get .centralSide,
    related .centralSide, register, deregister]

def ofName? (s : String) : Option Endpoint := all.find? (·.name == s)

end Endpoint

def Call.endpoint : Call → Endpoint
  | store side (.create _ _) _ => .create side
  | store side (.update _ _) _ => .update side
  | store side (.delete _ _ _) _ => .delete side
  | store side (.get _ _) _ => .get side
  | store side (.related _ _ _) _ => .related side
  | register _ _ _ => .register
  | deregister _ _ _ => .deregister

/-- Replies laid down for one endpoint: those that wait to be taken, and a standing one. -/
structure Replies (α : Type) where
  waiting : List α
  standing : Option α

namespace Replies

variable {α : Type}

def none : Replies α := ⟨[], Option.none⟩

def next (default : α) (r : Replies α) : α × Replies α :=
  match r.waiting with
  | a :: rest => (a, { r with waiting := rest })
  | [] => (r.standing.getD default, r)

def add (waiting : List α) (standing : Option α) (r : Replies α) : Replies α :=
  ⟨r.waiting ++ waiting, standing.or r.standing⟩

end Replies

structure Script where
  calls : Endpoint → Replies Reply
  tokens : Replies (Except TokenError Token)

namespace Script

def empty : Script := ⟨fun _ => .none, .none⟩

def success : Document :=
  .ofMembers [("type", .string "urn:dx:cat:Success"), ("title", .string "Success")]

def token : Token := ⟨"admin-token"⟩

def setCalls (s : Script) (e : Endpoint) (r : Replies Reply) : Script :=
  { s with calls := fun e' => if e' = e then r else s.calls e' }

def addCalls (s : Script) (e : Endpoint) (waiting : List Reply) (standing : Option Reply) :
    Script :=
  s.setCalls e ((s.calls e).add waiting standing)

def addTokens (s : Script) (waiting : List (Except TokenError Token))
    (standing : Option (Except TokenError Token)) : Script :=
  { s with tokens := s.tokens.add waiting standing }

def world : World Script where
  answer call s :=
    let (reply, rest) := (s.calls call.endpoint).next (.ok success)
    (reply, s.setCalls call.endpoint rest)
  mint s :=
    let (reply, rest) := s.tokens.next (.ok token)
    (reply, { s with tokens := rest })
  draw s := (0, s)

end Script

end TwinCatalogue
