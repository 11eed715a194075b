import TwinCatalogue.Verb

/-!
Sessions: calls one after the other against the same remote systems. Counts add up over the
calls, and after each call the repairs run as long as one is in flight.
-/

namespace TwinCatalogue

/-- Where a session stands: the state of the world, the counts so far, and the repairs that were
handed over and have not been run. -/
structure Session (σ : Type) where
  world : σ
  counters : Counters
  pending : List RepairTask

namespace Session

variable {σ α : Type}

def start (world : σ) : Session σ := ⟨world, .zero, []⟩

def call (w : World σ) (x : Activity σ α) (s : Session σ) : α × List Event × Session σ :=
  let e := x.run w s.world
  (e.result, e.events,
    { world := e.after
      counters := Event.counters s.counters e.events
      pending := s.pending ++ Event.tasks e.events })

def repair (p : RetryPolicy) (w : World σ) :
    List RepairTask → σ → Counters → List Event × Session σ
  | [], world, counters => ([], ⟨world, counters, []⟩)
  | task :: rest, world, counters =>
    if counters.inFlight = 0 then ([], ⟨world, counters, task :: rest⟩)
    else
      let e := (task.run p).run w world
      let (events, s) := repair p w rest e.after (Event.counters counters e.events)
      (e.events ++ events, s)

def settle (p : RetryPolicy) (w : World σ) (s : Session σ) : List Event × Session σ :=
  repair p w s.pending s.world s.counters

end Session

end TwinCatalogue
