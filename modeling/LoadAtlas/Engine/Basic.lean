import LoadAtlas.Atlas.GeoJson
import LoadAtlas.Config.Setting
import LoadAtlas.Timetable
import LoadAtlas.Window.Tracker

/-!
# Engines

An engine runs a tracker on a timetable: intervals are rotated periodically, each closed
interval expires one retention later, and the territory of every entity is swept periodically
from the moment it was first seen.  Time is logical; periods are in milliseconds.

A closed engine refuses every call.  Its tracker and atlas can still be used directly, but
nothing of what was waiting will ever run.
-/

namespace LoadAtlas

/-- The work that an engine does on its own. -/
inductive Duty
  | rotate
  | expire (closed : ClosedInterval)
  | sweep (entity : String)
  deriving Inhabited

/-- A tracker and the work that waits for its time. -/
structure Engine where
  tracker : Tracker
  timetable : Timetable Duty
  closed : Bool := false

def Duty.perform (duty : Duty) (tracker : Tracker) : Outcome Tracker Duty :=
  match duty with
  | .rotate =>
      let (rotated, closed) := tracker.rotate
      let retention := tracker.atlas.config.retention.toNat
      { state := rotated, submissions := closed.map fun interval => (retention, .expire interval) }
  | .expire closed => { state := tracker.expire closed }
  | .sweep entity =>
      match tracker.atlas.mergeSweep? entity with
      | none => { state := tracker, again := false }
      | some (atlas, _) => { state := { tracker with atlas } }

namespace Engine

/-- An engine whose clock ticks so many times in a millisecond. -/
def startAt (resolution : Nat) (config : Config) : Except Fault Engine := do
  let tracker ← Tracker.start config
  let timetable : Timetable Duty := { resolution }
  return { tracker, timetable := timetable.every config.rotationInterval.toNat .rotate }

def start (config : Config) : Except Fault Engine :=
  startAt 1 config

def build (settings : List Config.Setting) : Except Fault Engine :=
  start (Config.standard.applyAll settings)

def atlas (engine : Engine) : Atlas :=
  engine.tracker.atlas

def config (engine : Engine) : Config :=
  engine.atlas.config

def isClosed (engine : Engine) : Bool :=
  engine.closed

/-- Accepts an engine that is not closed. -/
def ensureOpen (engine : Engine) : Except Fault Unit :=
  if engine.isClosed then .error .engineClosed else .ok ()

/-- The entities of one atlas that another one does not have. -/
def newcomers (before after : Atlas) : List String :=
  after.entities.filter fun entity => !before.territories.contains entity

/-- The engine after its tracker was used directly.  Every entity that is new in the atlas is
swept periodically from now on. -/
def adopt (engine : Engine) (tracker : Tracker) : Engine :=
  { engine with
    tracker
    timetable := (newcomers engine.atlas tracker.atlas).foldl
      (fun timetable entity => timetable.every engine.config.mergeInterval.toNat (.sweep entity))
      engine.timetable }

/-- The engine after its atlas was used directly. -/
def adoptAtlas (engine : Engine) (atlas : Atlas) : Engine :=
  engine.adopt { engine.tracker with atlas }

/-- The engine after its tracker was rotated directly, and how many intervals were closed. -/
def rotate (engine : Engine) : Engine × Nat :=
  let outcome := Duty.rotate.perform engine.tracker
  ({ engine with
     tracker := outcome.state
     timetable := outcome.submissions.foldl
      (fun timetable submission => timetable.after submission.1 submission.2)
      engine.timetable },
    outcome.submissions.length)

def record (engine : Engine) (entity : String) (location : Location) : Except Fault Engine := do
  engine.ensureOpen
  return engine.adopt (← engine.tracker.record entity location)

def load (engine : Engine) (entity : String) : Except Fault Nat := do
  engine.ensureOpen
  return engine.tracker.load entity

def centroids? (engine : Engine) (entity : String) : Except Fault (Option (List CellId)) := do
  engine.ensureOpen
  return engine.atlas.centroids? entity

def weightedCentroids (engine : Engine) (entity : String) :
    Except Fault (Except NoShape (Option (List WeightedCentroid))) := do
  engine.ensureOpen
  return engine.atlas.weightedCentroids entity

def distribution (engine : Engine) (entity : String) :
    Except Fault (Except NoShape (Option Json.Tree)) := do
  engine.ensureOpen
  return engine.atlas.distribution entity

def breakdown? (engine : Engine) (entity : String) :
    Except Fault (Option (List BucketCount)) := do
  engine.ensureOpen
  return engine.tracker.breakdown? entity

/-- Answers for an entity with the given cells until the override is cleared. -/
def setOverride (engine : Engine) (entity : String) (cells : List CellId) :
    Except Fault Engine := do
  engine.ensureOpen
  return engine.adoptAtlas (engine.atlas.setOverride entity cells)

/-- Clears the override of an entity and tells whether there was one. -/
def clearOverride (engine : Engine) (entity : String) : Except Fault (Engine × Bool) := do
  engine.ensureOpen
  let (atlas, cleared) := engine.atlas.clearOverride entity
  return (engine.adoptAtlas atlas, cleared)

def indexStats (engine : Engine) : Except Fault IndexStats := do
  engine.ensureOpen
  return engine.atlas.stats

def loadStats (engine : Engine) : Except Fault LoadStats := do
  engine.ensureOpen
  return engine.tracker.stats

/-- Closes the engine.  What was waiting is dropped, so loads stay as they are. -/
def close (engine : Engine) : Except Fault Engine := do
  engine.ensureOpen
  return { engine with closed := true, timetable := engine.timetable.stop }

end Engine
end LoadAtlas
