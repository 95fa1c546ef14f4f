import LoadAtlas.Engine.Wait

/-!
# Chronicles

A chronicle is an engine together with the requests that it recorded, each with its time.
Requests come at any time, and so do rotations on demand.  The engine does its own work when the
time for it has come; the clock never passes the time of work that waits to be done.
-/

namespace LoadAtlas

/-- A request that an engine recorded. -/
structure Arrival where
  entity : String
  time : Nat

/-- An engine and the requests that it recorded. -/
structure Chronicle where
  engine : Engine
  arrivals : List Arrival := []

namespace Chronicle

/-- What may happen next. -/
inductive Step
  | record (entity : String) (location : Location)
  /-- Somebody rotates the tracker, whatever the timetable says. -/
  | rotate
  /-- The next work that waits is done, at its time. -/
  | wake
  /-- Nothing happens until a time, which is not later than that of the next work. -/
  | idle (time : Nat)

def now (chronicle : Chronicle) : Nat :=
  chronicle.engine.timetable.now

/-- What is left after a step.  A request that is refused changes nothing, nor does idling past
the time of work. -/
def step (chronicle : Chronicle) : Step → Chronicle
  | .record entity location =>
      match chronicle.engine.record entity location with
      | .ok engine => { engine, arrivals := chronicle.arrivals ++ [⟨entity, chronicle.now⟩] }
      | .error _ => chronicle
  | .rotate => { chronicle with engine := chronicle.engine.rotate.1 }
  | .wake =>
      match chronicle.engine.runNext? with
      | some engine => { chronicle with engine }
      | none => chronicle
  | .idle time =>
      if chronicle.engine.timetable.timers.all fun timer => time ≤ timer.deadline then
        { chronicle with engine := chronicle.engine.idleUntil time }
      else chronicle

def run (chronicle : Chronicle) (steps : List Step) : Chronicle :=
  steps.foldl step chronicle

end Chronicle
end LoadAtlas
