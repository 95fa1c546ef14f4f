import LoadAtlas.Window.Decay

/-!
# Attempts

The calls that name a location may fail.  An attempt is such a call with its single steps, each
of which looks at the state or writes to it; what is written stays written when a later step
fails.

An atlas can be told of a client directly, or by a tracker that records a request.
-/

namespace LoadAtlas

/-- A call that goes on step by step until one of its steps fails. -/
abbrev Attempt (State Value : Type) :=
  EStateM Fault State Value

namespace Attempt

variable {State Value : Type}

/-- A step that fails or gives a value, and writes nothing. -/
def look (read : State → Except Fault Value) : Attempt State Value := fun state =>
  match read state with
  | .ok value => .ok value state
  | .error fault => .error fault state

end Attempt

namespace Atlas

def insertion (entity : String) (location : Location) : Attempt Atlas Unit := do
  let address ← Attempt.look fun atlas => atlas.address location
  modify fun atlas => atlas.insertBucket entity address 1

def removal (entity : String) (location : Location) (amount : Nat) : Attempt Atlas Nat := do
  let address ← Attempt.look fun atlas => atlas.address location
  modifyGet fun atlas =>
    let (atlas, removed) := atlas.removeBucket entity address amount
    (removed, atlas)

end Atlas

namespace Tracker

/-- Makes sure that an entity has a counter. -/
def enroll (tracker : Tracker) (entity : String) : Tracker :=
  { tracker with counters := tracker.counters.insertIfNew entity {} }

/-- Counts a request in the counter of an entity that has one. -/
def tick (tracker : Tracker) (entity : String) (address : Bucket.Address) : Tracker :=
  { tracker with
    counters := tracker.counters.modify entity fun counter =>
      { window := counter.window.add address.key address.location 1
        interval := counter.interval.add address.key address.location 1 } }

def note (tracker : Tracker) : Tracker :=
  { tracker with recorded := tracker.recorded + 1 }

def recording (entity : String) (location : Location) : Attempt Tracker Unit := do
  Attempt.look fun _ => (checkEntity entity).mapError .input
  Attempt.look fun _ => location.check.mapError .input
  let address ← Attempt.look fun tracker => tracker.atlas.address location
  modify fun tracker => tracker.enroll entity
  modify fun tracker => tracker.tick entity address
  modify note
  modify fun tracker => tracker.chart entity address

end Tracker
end LoadAtlas
