import LoadAtlas.Window.Tracker

/-!
# Decay

A tracker together with the closed intervals that it handed out and that have not expired yet.
Intervals may expire in any order, whatever else happens in between; what may happen is what a
tracker and its atlas allow while nobody else counts clients in the atlas or takes them away.
-/

namespace LoadAtlas

/-- A tracker and the closed intervals that wait for their expiry. -/
structure Decay where
  tracker : Tracker
  waiting : List ClosedInterval := []
  deriving Inhabited

namespace Decay

/-- What may happen next. -/
inductive Step
  | record (entity : String) (location : Location)
  | rotate
  /-- A waiting interval expires, whichever it is. -/
  | expire (index : Nat)
  | mergeSweep (entity : String)
  | mergeAll
  | setOverride (entity : String) (cells : List CellId)
  | clearOverride (entity : String)

def withAtlas (decay : Decay) (atlas : Atlas) : Decay :=
  { decay with tracker := { decay.tracker with atlas } }

/-- What is left after a step.  A request that is refused, and the expiry of an interval that
does not wait, change nothing. -/
def step (decay : Decay) : Step → Decay
  | .record entity location =>
      match decay.tracker.record entity location with
      | .ok tracker => { decay with tracker }
      | .error _ => decay
  | .rotate =>
      let (tracker, closed) := decay.tracker.rotate
      { tracker, waiting := decay.waiting ++ closed }
  | .expire index =>
      match decay.waiting[index]? with
      | some closed =>
          { tracker := decay.tracker.expire closed, waiting := decay.waiting.eraseIdx index }
      | none => decay
  | .mergeSweep entity =>
      match decay.tracker.atlas.mergeSweep? entity with
      | some (atlas, _) => decay.withAtlas atlas
      | none => decay
  | .mergeAll => decay.withAtlas decay.tracker.atlas.mergeAll.1
  | .setOverride entity cells => decay.withAtlas (decay.tracker.atlas.setOverride entity cells)
  | .clearOverride entity => decay.withAtlas (decay.tracker.atlas.clearOverride entity).1

def run (decay : Decay) (steps : List Step) : Decay :=
  steps.foldl step decay

end Decay
end LoadAtlas
