import LoadAtlas.Window.Tracker

/-!
# Overlapping requests and expiries

A tracker and its atlas are kept under locks of their own, and whatever changes both takes the
locks one after the other.  A request is counted first and charted later.  A rotation closes the
open intervals entity by entity.  An expiry takes the buckets of its interval out of the atlas
one at a time and only then takes the interval out of the window.  Between any two of these
steps others may come.

An expiry does not look at how many clients the atlas had to give.  What it asked for in vain is
noted here, as shortfalls.
-/

namespace LoadAtlas

namespace Tracker

/-- Closes the open interval of one entity if it saw traffic. -/
def close (tracker : Tracker) (entity : String) : Tracker × Option ClosedInterval :=
  match tracker.counters[entity]? with
  | none => (tracker, none)
  | some counter =>
      if counter.interval.isEmpty then (tracker, none)
      else
        ({ tracker with
            counters := tracker.counters.insert entity { counter with interval := .empty }
            pendingExpirations := tracker.pendingExpirations + 1 },
          some ⟨entity, counter.interval⟩)

/-- Counts a rotation that has gone through all entities. -/
def turn (tracker : Tracker) : Tracker :=
  { tracker with rotations := tracker.rotations + 1 }

end Tracker

/-- A request that was counted and is still to be charted. -/
structure Landing where
  entity : String
  address : Bucket.Address

/-- An expiry under way, with the buckets that it has still to take out of the atlas. -/
structure Leaving where
  closed : ClosedInterval
  buckets : List (String × Bucket)

/-- Clients that an expiry asked for and that were not there. -/
structure Shortfall where
  entity : String
  key : String
  amount : Nat

/-- A tracker with everything that is under way. -/
structure Overlap where
  tracker : Tracker
  landing : List Landing := []
  waiting : List ClosedInterval := []
  leaving : List Leaving := []
  shortfalls : List Shortfall := []

namespace Overlap

/-- What may happen next. -/
inductive Step
  /-- A request is counted in its window and its open interval. -/
  | count (entity : String) (location : Location)
  /-- A request that was counted is charted. -/
  | chart (request : Nat)
  | close (entity : String)
  | turn
  /-- The time of a closed interval has come. -/
  | begin (interval : Nat)
  /-- An expiry takes one of its buckets out of the atlas. -/
  | withdraw (expiry bucket : Nat)
  /-- An expiry that has been through all its buckets takes its interval out of the window. -/
  | forget (expiry : Nat)
  | mergeSweep (entity : String)

def withAtlas (overlap : Overlap) (atlas : Atlas) : Overlap :=
  { overlap with tracker := { overlap.tracker with atlas } }

/-- Takes a bucket of an expiry out of the atlas. -/
def withdraw (overlap : Overlap) (expiry : Nat) (leaving : Leaving) (bucket : Nat)
    (entry : String × Bucket) : Overlap :=
  let (atlas, removed) := overlap.tracker.atlas.removeBucket leaving.closed.entity
    ⟨entry.1, entry.2.location⟩ entry.2.count
  { overlap.withAtlas atlas with
    leaving := overlap.leaving.set expiry
      { leaving with buckets := leaving.buckets.eraseIdx bucket }
    shortfalls := overlap.shortfalls ++
      [⟨leaving.closed.entity, entry.1, entry.2.count - removed⟩] }

/-- What is left after a step.  A step that cannot be taken changes nothing. -/
def step (overlap : Overlap) : Step → Overlap
  | .count entity location =>
      match overlap.tracker.accept entity location with
      | .ok address =>
          { overlap with
            tracker := overlap.tracker.count entity address
            landing := overlap.landing ++ [⟨entity, address⟩] }
      | .error _ => overlap
  | .chart request =>
      match overlap.landing[request]? with
      | some landing =>
          { overlap with
            tracker := overlap.tracker.chart landing.entity landing.address
            landing := overlap.landing.eraseIdx request }
      | none => overlap
  | .close entity =>
      let (tracker, closed?) := overlap.tracker.close entity
      { overlap with tracker, waiting := overlap.waiting ++ closed?.toList }
  | .turn => { overlap with tracker := overlap.tracker.turn }
  | .begin interval =>
      match overlap.waiting[interval]? with
      | some closed =>
          { overlap with
            waiting := overlap.waiting.eraseIdx interval
            leaving := overlap.leaving ++ [⟨closed, closed.requests.buckets.toList⟩] }
      | none => overlap
  | .withdraw expiry bucket =>
      match overlap.leaving[expiry]? with
      | some leaving =>
          match leaving.buckets[bucket]? with
          | some entry => overlap.withdraw expiry leaving bucket entry
          | none => overlap
      | none => overlap
  | .forget expiry =>
      match overlap.leaving[expiry]? with
      | some leaving =>
          if leaving.buckets.isEmpty then
            { overlap with
              tracker := overlap.tracker.forget leaving.closed
              leaving := overlap.leaving.eraseIdx expiry }
          else overlap
      | none => overlap
  | .mergeSweep entity =>
      match overlap.tracker.atlas.mergeSweep? entity with
      | some (atlas, _) => overlap.withAtlas atlas
      | none => overlap

def run (overlap : Overlap) (steps : List Step) : Overlap :=
  steps.foldl step overlap

end Overlap
end LoadAtlas
