import LoadAtlas.Atlas.Run
import LoadAtlas.Engine.Wait

/-!
# Services

An engine is used through handles.  One handle comes with the engine, the others are clones, and
all of them lead to the same engine.  Its tracker and its atlas can also be used directly, past
the engine; that works even if the engine was closed.  In between the clock goes on, and the
engine does its own work when the time for it has come.
-/

namespace LoadAtlas
namespace Engine

/-- What an engine is asked for through a handle. -/
inductive Operation
  | record (entity : String) (location : Location)
  | load (entity : String)
  | centroids (entity : String)
  | weightedCentroids (entity : String)
  | distribution (entity : String)
  | breakdown (entity : String)
  | setOverride (entity : String) (cells : List CellId)
  | clearOverride (entity : String)
  | indexStats
  | loadStats
  | close

/-- What the tracker of an engine and its atlas are asked for past the engine.  The overrides of
the tracker are those of its atlas. -/
inductive DirectCall
  | record (entity : String) (location : Location)
  | rotate
  /-- From now on the tracker is rotated periodically, once more than before. -/
  | startRotation
  | load (entity : String)
  | breakdown (entity : String)
  | entities
  | stats
  | atlas (request : Request)

/-- What an operation or a direct call returns. -/
inductive Result
  | done
  | refused (fault : Fault)
  | load (requests : Nat)
  | cells (cells? : Option (List CellId))
  | weighted (centroids? : Except NoShape (Option (List WeightedCentroid)))
  | distribution (tree? : Except NoShape (Option Json.Tree))
  | breakdown (buckets? : Option (List BucketCount))
  | cleared (wasSet : Bool)
  | indexStats (stats : IndexStats)
  | loadStats (stats : LoadStats)
  | rotated (closed : Nat)
  | names (entities : List String)
  | atlas (reply : Reply)

/-- What an operation makes of an engine and what it returns, unless it is refused. -/
def attempt (engine : Engine) : Operation → Except Fault (Engine × Result)
  | .record entity location => return (← engine.record entity location, .done)
  | .load entity => return (engine, .load (← engine.load entity))
  | .centroids entity => return (engine, .cells (← engine.centroids? entity))
  | .weightedCentroids entity => return (engine, .weighted (← engine.weightedCentroids entity))
  | .distribution entity => return (engine, .distribution (← engine.distribution entity))
  | .breakdown entity => return (engine, .breakdown (← engine.breakdown? entity))
  | .setOverride entity cells => return (← engine.setOverride entity cells, .done)
  | .clearOverride entity => do
      let (later, wasSet) ← engine.clearOverride entity
      return (later, .cleared wasSet)
  | .indexStats => return (engine, .indexStats (← engine.indexStats))
  | .loadStats => return (engine, .loadStats (← engine.loadStats))
  | .close => return (← engine.close, .done)

/-- An operation that is refused leaves the engine as it was. -/
def operate (engine : Engine) (operation : Operation) : Engine × Result :=
  match engine.attempt operation with
  | .ok outcome => outcome
  | .error fault => (engine, .refused fault)

/-- Has the tracker rotated once more in every rotation interval. -/
def startRotation (engine : Engine) : Engine :=
  { engine with
    timetable := engine.timetable.every engine.config.rotationInterval.toNat .rotate }

/-- A call of the tracker or the atlas of an engine, be the engine closed or not. -/
def direct (engine : Engine) : DirectCall → Engine × Result
  | .record entity location =>
      match engine.tracker.record entity location with
      | .ok tracker => (engine.adopt tracker, .done)
      | .error fault => (engine, .refused fault)
  | .rotate =>
      let (later, closed) := engine.rotate
      (later, .rotated closed)
  | .startRotation => (engine.startRotation, .done)
  | .load entity => (engine, .load (engine.tracker.load entity))
  | .breakdown entity => (engine, .breakdown (engine.tracker.breakdown? entity))
  | .entities => (engine, .names engine.tracker.entities)
  | .stats => (engine, .loadStats engine.tracker.stats)
  | .atlas request =>
      let (atlas, reply) := engine.atlas.serve request
      (engine.adoptAtlas atlas, .atlas reply)

end Engine

/-- An engine and the number of handles that lead to it. -/
structure Service where
  engine : Engine
  handles : Nat := 1

namespace Service

/-- What may happen next. -/
inductive Step
  | clone (handle : Nat)
  | call (handle : Nat) (operation : Engine.Operation)
  | direct (call : Engine.DirectCall)
  /-- The next work that waits is done, at its time. -/
  | wake
  /-- Nothing happens until a time, which is not later than that of the next work. -/
  | idle (time : Nat)

/-- What comes of a step. -/
inductive Event
  | cloned
  | returned (result : Engine.Result)
  /-- The engine did some of its own work. -/
  | worked
  | nothing

/-- Nothing comes of a step that uses a handle nobody has, nor of waking an engine that has no
work or of idling past the time of work. -/
def serve (service : Service) : Step → Service × Event
  | .clone handle =>
      if handle < service.handles then
        ({ service with handles := service.handles + 1 }, .cloned)
      else (service, .nothing)
  | .call handle operation =>
      if handle < service.handles then
        let (engine, result) := service.engine.operate operation
        ({ service with engine }, .returned result)
      else (service, .nothing)
  | .direct call =>
      let (engine, result) := service.engine.direct call
      ({ service with engine }, .returned result)
  | .wake =>
      match service.engine.runNext? with
      | some engine => ({ service with engine }, .worked)
      | none => (service, .nothing)
  | .idle time =>
      if service.engine.timetable.timers.all fun timer => time ≤ timer.deadline then
        ({ service with engine := service.engine.idleUntil time }, .nothing)
      else (service, .nothing)

def run (service : Service) (steps : List Step) : Service :=
  steps.foldl (fun service step => (service.serve step).1) service

/-- The steps of a run together with what came of them. -/
def trace (service : Service) : List Step → List (Step × Event)
  | [] => []
  | step :: steps =>
      let (next, event) := service.serve step
      (step, event) :: next.trace steps

end Service
end LoadAtlas
