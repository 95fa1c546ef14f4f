import LoadAtlas.Atlas.GeoJson
import LoadAtlas.Forest.Audit

/-!
# Runs of an atlas

What an atlas is asked for, one request after the other, and what it replies.  A request is one
call of the atlas's interface; reading requests are queries, whose answers do not change
anything.
-/

namespace LoadAtlas

/-- A request that only looks at an atlas. -/
inductive Query
  | centroids (entity : String)
  | weightedCentroids (entity : String)
  | distribution (entity : String)
  | isExploring (entity : String)
  | clientCount (entity : String)
  | topCells (entity : String)
  | report (entity : String) (id : CellId)
  | audit (entity : String)
  | entities
  | stats

/-- The answer to a query. -/
inductive Answer
  | cells (cells? : Option (List CellId))
  | weighted (centroids? : Except NoShape (Option (List WeightedCentroid)))
  | distribution (tree? : Except NoShape (Option Json.Tree))
  | flag (holds : Bool)
  | count (count? : Option Nat)
  | report (report? : Option CellReport)
  | audit (result? : Option (Except Forest.Defect Unit))
  | names (entities : List String)
  | stats (stats : IndexStats)

/-- What an atlas is asked for. -/
inductive Request
  | insert (entity : String) (location : Location)
  | remove (entity : String) (location : Location) (amount : Nat)
  | mergeSweep (entity : String)
  | mergeAll
  | setOverride (entity : String) (cells : List CellId)
  | clearOverride (entity : String)
  | read (query : Query)

/-- What an atlas replies. -/
inductive Reply
  | done
  | refused (fault : Fault)
  | removed (amount : Nat)
  | merged (cells? : Option Nat)
  | cleared (wasSet : Bool)
  | answered (answer : Answer)

namespace Query

/-- The entity that a query names. -/
def entity? : Query → Option String
  | .centroids entity | .weightedCentroids entity | .distribution entity | .isExploring entity
  | .clientCount entity | .topCells entity | .report entity _ | .audit entity => some entity
  | .entities | .stats => none

/-- Whether an override, while it is set, shows in the answer. -/
def showsOverride : Query → Bool
  | .centroids _ | .weightedCentroids _ | .distribution _ | .isExploring _ => true
  | _ => false

end Query

namespace Request

/-- The entity that a request names. -/
def entity? : Request → Option String
  | .insert entity _ | .remove entity _ _ | .mergeSweep entity | .setOverride entity _
  | .clearOverride entity => some entity
  | .mergeAll => none
  | .read query => query.entity?

/-- Whether a request sets or clears an override. -/
def changesOverride : Request → Bool
  | .setOverride _ _ | .clearOverride _ => true
  | _ => false

def showsOverride : Request → Bool
  | .read query => query.showsOverride
  | _ => false

/-- Whether a request is still there when the requests that name other entities are left out, and
all requests that set or clear an override. -/
def concerns (request : Request) (entity : String) : Bool :=
  !request.changesOverride && (request.entity? == none || request.entity? == some entity)

end Request

namespace Atlas

def answer (atlas : Atlas) : Query → Answer
  | .centroids entity => .cells (atlas.centroids? entity)
  | .weightedCentroids entity => .weighted (atlas.weightedCentroids entity)
  | .distribution entity => .distribution (atlas.distribution entity)
  | .isExploring entity => .flag (atlas.isExploring entity)
  | .clientCount entity => .count (atlas.clientCount? entity)
  | .topCells entity => .cells (atlas.topCells? entity)
  | .report entity id => .report (atlas.report? entity id)
  | .audit entity => .audit (atlas.territories[entity]?.map fun territory => territory.forest.audit)
  | .entities => .names atlas.entities
  | .stats => .stats atlas.stats

def serve (atlas : Atlas) : Request → Atlas × Reply
  | .insert entity location =>
      match atlas.insert entity location with
      | .ok atlas => (atlas, .done)
      | .error fault => (atlas, .refused fault)
  | .remove entity location amount =>
      match atlas.remove entity location amount with
      | .ok (atlas, removed) => (atlas, .removed removed)
      | .error fault => (atlas, .refused fault)
  | .mergeSweep entity =>
      match atlas.mergeSweep? entity with
      | none => (atlas, .merged none)
      | some (atlas, merged) => (atlas, .merged (some merged))
  | .mergeAll =>
      let (atlas, merged) := atlas.mergeAll
      (atlas, .merged (some merged))
  | .setOverride entity cells => (atlas.setOverride entity cells, .done)
  | .clearOverride entity =>
      let (atlas, wasSet) := atlas.clearOverride entity
      (atlas, .cleared wasSet)
  | .read query => (atlas, .answered (atlas.answer query))

def run (atlas : Atlas) (requests : List Request) : Atlas :=
  requests.foldl (fun atlas request => (atlas.serve request).1) atlas

/-- The requests of a run together with their replies. -/
def trace (atlas : Atlas) : List Request → List (Request × Reply)
  | [] => []
  | request :: requests =>
      let (next, reply) := atlas.serve request
      (request, reply) :: next.trace requests

end Atlas
end LoadAtlas
