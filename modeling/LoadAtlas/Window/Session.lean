import LoadAtlas.Atlas.Run
import LoadAtlas.Window.Decay

/-!
# Sessions

A tracker and its atlas serve many callers at once.  Callers record requests, look at loads and
ask the atlas for anything that it offers; in between come rotations and the expiries of the
intervals that wait.  A session is a list of such calls, and its transcript tells what was
answered to each of them.

Most calls name one entity.  A rotation, a merge of everything and the overall statistics are
about all entities at once.
-/

namespace LoadAtlas

/-- What a tracker and its atlas are asked for. -/
inductive Call
  | record (entity : String) (location : Location)
  | rotate
  /-- One of the waiting intervals of an entity expires, whichever it is. -/
  | expire (entity : String) (index : Nat)
  | load (entity : String)
  | breakdown (entity : String)
  | entities
  | stats
  | atlas (request : Request)

/-- What is answered to a call. -/
inductive Response
  | recorded
  | refused (fault : Fault)
  | rotated (closed : Nat)
  | expired (wasWaiting : Bool)
  | load (requests : Nat)
  | breakdown (buckets? : Option (List BucketCount))
  | names (entities : List String)
  | stats (stats : LoadStats)
  | atlas (reply : Reply)

namespace Call

/-- The entity that a call names. -/
def entity? : Call → Option String
  | .record entity _ | .expire entity _ | .load entity | .breakdown entity => some entity
  | .rotate | .entities | .stats => none
  | .atlas request => request.entity?

def changesOverride : Call → Bool
  | .atlas request => request.changesOverride
  | _ => false

def showsOverride : Call → Bool
  | .atlas request => request.showsOverride
  | _ => false

/-- Whether a call is still there when the calls that name other entities are left out, and all
calls that set or clear an override. -/
def concerns (call : Call) (entity : String) : Bool :=
  !call.changesOverride && (call.entity? == none || call.entity? == some entity)

end Call

/-- Where an interval stands, counting those of its entity only. -/
def ClosedInterval.place? (entity : String) : (index : Nat) → List ClosedInterval → Option Nat
  | _, [] => none
  | index, closed :: waiting =>
      if closed.entity = entity then
        match index with
        | 0 => some 0
        | index + 1 => (place? entity index waiting).map (· + 1)
      else (place? entity index waiting).map (· + 1)

/-- A call of a session: what was there before it, and what was answered. -/
structure Turn where
  before : Decay
  call : Call
  response : Response

namespace Decay

def serve (decay : Decay) : Call → Decay × Response
  | .record entity location =>
      match decay.tracker.record entity location with
      | .ok tracker => ({ decay with tracker }, .recorded)
      | .error fault => (decay, .refused fault)
  | .rotate =>
      let (tracker, closed) := decay.tracker.rotate
      ({ tracker, waiting := decay.waiting ++ closed }, .rotated closed.length)
  | .expire entity index =>
      match ClosedInterval.place? entity index decay.waiting with
      | some place => (decay.step (.expire place), .expired true)
      | none => (decay, .expired false)
  | .load entity => (decay, .load (decay.tracker.load entity))
  | .breakdown entity => (decay, .breakdown (decay.tracker.breakdown? entity))
  | .entities => (decay, .names decay.tracker.entities)
  | .stats => (decay, .stats decay.tracker.stats)
  | .atlas request =>
      let (atlas, reply) := decay.tracker.atlas.serve request
      (decay.withAtlas atlas, .atlas reply)

/-- What a session leaves behind. -/
def serveAll (decay : Decay) (calls : List Call) : Decay :=
  calls.foldl (fun decay call => (decay.serve call).1) decay

/-- The calls of a session with what was answered. -/
def transcript (decay : Decay) : List Call → List Turn
  | [] => []
  | call :: calls =>
      ⟨decay, call, (decay.serve call).2⟩ :: (decay.serve call).1.transcript calls

end Decay
end LoadAtlas
