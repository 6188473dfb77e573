import Mathlib.Data.List.Induction
import Telemetry.Proofs.Audit

/-!
# Sinks that come and go

Sinks are attached to a publisher and detached from it, among other steps.  A
handle numbers its sink, so the sinks of a publisher are those that the steps
have left it with, in the order in which they were attached.

Handles are counted in 64 bits.  As long as they suffice, each of them stands
for one sink for good.
-/

namespace Telemetry
namespace Audit

/-- A change from outside that leaves the contents of files.  It may make and remove directories
and change what addresses answer, so any sink may begin to fail and recover. -/
structure Disturbance where
  /-- The changed world. -/
  change : World -> World
  home : ∀ world, (change world).files.home = world.files.home
  content : ∀ world location,
    (change world).files.content? location = world.files.content? location

/-- What can happen to a publisher, its sinks and the world. -/
inductive Step where
  /-- A sink is made ready. -/
  | prepare (sink : Sink)
  /-- A sink is attached. -/
  | attach (sink : Sink)
  /-- The sink of a handle is detached. -/
  | detach (handle : Handle)
  /-- An event is handed to a sink, attached or not. -/
  | publish (sink : Sink) (event : Event)
  /-- An event is handed to all attached sinks. -/
  | notify (event : Event)
  /-- The world changes. -/
  | disturb (disturbance : Disturbance)

/-- A publisher in the world. -/
structure Stage where
  /-- The publisher. -/
  publisher : Publisher := {}
  /-- The files and addresses. -/
  world : World
  /-- The offers that were made so far, in order. -/
  made : List Offer := []

namespace Stage

/-- The stage after a step. -/
def step (stage : Stage) : Step -> Stage
  | .prepare sink => { stage with world := sink.prepare stage.world }
  | .attach sink => { stage with publisher := (stage.publisher.attach sink).2 }
  | .detach handle => { stage with publisher := (stage.publisher.detach handle).2 }
  | .publish sink event =>
      let (world, result) := sink.publish stage.world event
      { stage with world, made := stage.made ++ [⟨sink, event, result⟩] }
  | .notify event =>
      let notice := stage.publisher.notify stage.world event
      { stage with world := notice.world, made := stage.made ++ notice.offers }
  | .disturb disturbance => { stage with world := disturbance.change stage.world }

/-- The stage to which steps lead from a world in which no sink has been attached. -/
def run (world : World) (past : List Step) : Stage :=
  past.foldl step { world }

end Stage

/-! ## Handles -/

namespace Stage

end Stage

/-! ## What is left attached -/

namespace Publisher

variable {publisher : Publisher} {handle : Handle}

end Publisher

/-! ## The sinks of a run -/

namespace Stage

end Stage
end Audit
end Telemetry
