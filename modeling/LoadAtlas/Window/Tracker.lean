import LoadAtlas.Atlas.Basic

/-!
# Trackers

A tracker counts the recent requests of every entity and feeds them to an atlas.  For each
entity it keeps the window, which holds all requests that still count, and the open interval,
which holds those since the last rotation.  A rotation closes every interval that saw traffic;
when a closed interval expires, exactly its requests leave the window and the atlas.

Recording a request takes two separate steps, first in the counter and then in the atlas.
-/

namespace LoadAtlas

/-- The requests of one entity. -/
structure Counter where
  window : Tally := {}
  interval : Tally := {}
  deriving Inhabited

/-- A sub-interval that was closed and waits for its expiry. -/
structure ClosedInterval where
  entity : String
  requests : Tally
  deriving Inhabited

/-- The counters of all entities and the atlas that they feed. -/
structure Tracker where
  atlas : Atlas
  counters : Std.ExtTreeMap String Counter := ∅
  recorded : Nat := 0
  rotations : Nat := 0
  pendingExpirations : Nat := 0
  deriving Inhabited

/-- Sums over the counters of a tracker. -/
structure LoadStats where
  entities : Nat := 0
  windowTotal : Nat := 0
  recorded : Nat := 0
  pendingExpirations : Nat := 0
  rotations : Nat := 0
  deriving DecidableEq, Inhabited

namespace Tracker

/-- A tracker of nothing yet, if the configuration is sound. -/
def start (config : Config) : Except Fault Tracker :=
  (Atlas.start config).map fun atlas => { atlas }

/-- The bucket of a request, if the request is acceptable. -/
def accept (tracker : Tracker) (entity : String) (location : Location) :
    Except Fault Bucket.Address := do
  (checkEntity entity).mapError .input
  location.check.mapError .input
  tracker.atlas.address location

/-- Counts a request of an entity in its window and its open interval. -/
def count (tracker : Tracker) (entity : String) (address : Bucket.Address) : Tracker :=
  let counter := tracker.counters.getD entity {}
  let counter : Counter :=
    { window := counter.window.add address.key address.location 1
      interval := counter.interval.add address.key address.location 1 }
  { tracker with
    counters := tracker.counters.insert entity counter
    recorded := tracker.recorded + 1 }

def chart (tracker : Tracker) (entity : String) (address : Bucket.Address) : Tracker :=
  { tracker with atlas := tracker.atlas.insertBucket entity address 1 }

def record (tracker : Tracker) (entity : String) (location : Location) :
    Except Fault Tracker := do
  let address ← tracker.accept entity location
  return (tracker.count entity address).chart entity address

def load (tracker : Tracker) (entity : String) : Nat :=
  match tracker.counters[entity]? with
  | some counter => counter.window.total
  | none => 0

def breakdown? (tracker : Tracker) (entity : String) : Option (List BucketCount) :=
  tracker.counters[entity]?.map fun counter => counter.window.busiestFirst

/-- Closes the open interval of every entity that saw traffic.  The closed intervals are
handed out, to expire one retention later. -/
def rotate (tracker : Tracker) : Tracker × List ClosedInterval :=
  let busy := tracker.counters.toList.filter fun entry => !entry.2.interval.isEmpty
  let counters := tracker.counters.map fun _ counter =>
    if counter.interval.isEmpty then counter else { counter with interval := .empty }
  ({ tracker with
      counters
      rotations := tracker.rotations + 1
      pendingExpirations := tracker.pendingExpirations + busy.length },
    busy.map fun entry => ⟨entry.1, entry.2.interval⟩)

def withdraw (tracker : Tracker) (closed : ClosedInterval) : Tracker :=
  { tracker with
    atlas := tracker.atlas.removeBuckets closed.entity closed.requests.buckets.toList }

/-- Takes the requests of a closed interval out of its entity's window. -/
def forget (tracker : Tracker) (closed : ClosedInterval) : Tracker :=
  { tracker with
    counters := tracker.counters.modify closed.entity fun counter =>
      { counter with window := counter.window.subtract closed.requests }
    pendingExpirations := tracker.pendingExpirations - 1 }

/-- Lets a closed interval expire: its requests leave the atlas and then the window. -/
def expire (tracker : Tracker) (closed : ClosedInterval) : Tracker :=
  (tracker.withdraw closed).forget closed

def entities (tracker : Tracker) : List String :=
  tracker.counters.keys

def stats (tracker : Tracker) : LoadStats where
  entities := tracker.counters.size
  windowTotal := (tracker.counters.toList.map fun entry => entry.2.window.total).sum
  recorded := tracker.recorded
  pendingExpirations := tracker.pendingExpirations
  rotations := tracker.rotations

end Tracker
end LoadAtlas
