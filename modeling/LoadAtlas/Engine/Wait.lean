import LoadAtlas.Engine.Basic

/-!
# Waiting for an engine

An engine left alone does its work when the time comes.  Waiting means to let it work until a
condition holds or nothing more happens before a deadline.
-/

namespace LoadAtlas
namespace Engine

/-- Lets the clock reach the next piece of work and does it. -/
def runNext? (engine : Engine) : Option Engine :=
  (engine.timetable.runNext? Duty.perform engine.tracker).map
    fun (timetable, tracker) => { engine with tracker, timetable }

/-- Lets the clock reach a time at which no work is due. -/
def idleUntil (engine : Engine) (time : Nat) : Engine :=
  { engine with timetable := engine.timetable.advance time }

/-- Lets the engine do at most `steps` pieces of work, none of them after `deadline`, until a
condition holds, and tells whether it holds in the end.  If it does not, the deadline is
reached. -/
def waitFor (condition : Engine → Bool) (deadline : Nat) :
    (steps : Nat) → Engine → Engine × Bool
  | 0, engine => (engine, condition engine)
  | steps + 1, engine =>
      if condition engine then (engine, true)
      else
        match engine.timetable.next? with
        | none => (engine.idleUntil deadline, false)
        | some timer =>
            if deadline < timer.deadline then (engine.idleUntil deadline, false)
            else
              match engine.runNext? with
              | none => (engine.idleUntil deadline, false)
              | some later => waitFor condition deadline steps later

/-- More pieces of work than can fall into a span of milliseconds: what waits already, and in every
millisecond one rotation and for each entity one sweep and one expiry. -/
def workBound (engine : Engine) (span : Nat) : Nat :=
  let entities := engine.tracker.counters.size + engine.atlas.territories.size
  engine.timetable.pending + (span + 1) * (2 * entities + 2)

/-- Waits for a condition, but no longer than so many milliseconds. -/
def await (engine : Engine) (span : Nat) (condition : Engine → Bool) : Engine × Bool :=
  engine.waitFor condition (engine.timetable.now + span * engine.timetable.resolution)
    (engine.workBound span)

/-- Whether no window holds a request and no closed interval waits for its expiry. -/
def isDecayed (engine : Engine) : Bool :=
  let stats := engine.tracker.stats
  stats.windowTotal == 0 && stats.pendingExpirations == 0

/-- Whether an entity has the given number of centroids after at least so many merges. -/
def isCoarsened (engine : Engine) (entity : String) (leaves merges : Nat) : Bool :=
  ((engine.atlas.centroids? entity).map List.length) == some leaves &&
    merges ≤ engine.atlas.merges

end Engine
end LoadAtlas
