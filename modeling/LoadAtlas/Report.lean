import LoadAtlas.Atlas.Centroid
import LoadAtlas.Json.Record
import LoadAtlas.Json.Tree
import LoadAtlas.Window.Tracker

/-!
# Reports in JSON

Locations, bucket counts, weighted centroids and statistics are written as objects without
white space.  They are read from objects or lists that hold all their fields; unknown names
are passed over.
-/

namespace LoadAtlas

namespace Location

def record : Json.Record Location where
  title := "Coord"
  blank := default
  slots :=
    [.of "x" Json.readFloat fun location longitude => { location with longitude },
      .of "y" Json.readFloat fun location latitude => { location with latitude }]

def toJson (location : Location) : Json.Tree :=
  .object [("x", .float location.longitude), ("y", .float location.latitude)]

end Location

namespace BucketCount

def record : Json.Record BucketCount where
  title := "LocationBucket"
  blank := default
  slots :=
    [.of "key" Json.readText fun bucket key => { bucket with key },
      .of "location" Location.record.read fun bucket location => { bucket with location },
      .of "count" Json.readCount fun bucket count => { bucket with count }]

def toJson (bucket : BucketCount) : Json.Tree :=
  .object [("key", .text bucket.key), ("location", bucket.location.toJson),
    ("count", .natural bucket.count)]

end BucketCount

namespace WeightedCentroid

def record : Json.Record WeightedCentroid where
  title := "WeightedCentroid"
  blank := default
  slots :=
    [.of "cell_id" (Json.readWord "u64") fun centroid code => { centroid with cell := ⟨code⟩ },
      .of "level" Json.readCount fun centroid level => { centroid with level },
      .of "center" Location.record.read fun centroid center => { centroid with center },
      .of "count" Json.readCount fun centroid count => { centroid with count }]

def toJson (centroid : WeightedCentroid) : Json.Tree :=
  .object [("cell_id", .natural centroid.cell.code.toNat), ("level", .natural centroid.level),
    ("center", centroid.center.toJson), ("count", .natural centroid.count)]

end WeightedCentroid

namespace IndexStats

def record : Json.Record IndexStats where
  title := "IndexStats"
  blank := {}
  slots :=
    [.of "entities" Json.readSize fun stats entities => { stats with entities },
      .of "cells" Json.readSize fun stats cells => { stats with cells },
      .of "active_cells" Json.readSize fun stats activeCells => { stats with activeCells },
      .of "tracked_clients" Json.readCount fun stats trackedClients =>
        { stats with trackedClients },
      .of "splits" Json.readCount fun stats splits => { stats with splits },
      .of "merges" Json.readCount fun stats merges => { stats with merges }]

def toJson (stats : IndexStats) : Json.Tree :=
  .object [("entities", .natural stats.entities), ("cells", .natural stats.cells),
    ("active_cells", .natural stats.activeCells),
    ("tracked_clients", .natural stats.trackedClients), ("splits", .natural stats.splits),
    ("merges", .natural stats.merges)]

end IndexStats

namespace LoadStats

def record : Json.Record LoadStats where
  title := "LoadStats"
  blank := {}
  slots :=
    [.of "entities" Json.readSize fun stats entities => { stats with entities },
      .of "window_total" Json.readCount fun stats windowTotal => { stats with windowTotal },
      .of "recorded" Json.readCount fun stats recorded => { stats with recorded },
      .of "pending_expirations" Json.readCount fun stats pendingExpirations =>
        { stats with pendingExpirations },
      .of "rotations" Json.readCount fun stats rotations => { stats with rotations }]

def toJson (stats : LoadStats) : Json.Tree :=
  .object [("entities", .natural stats.entities), ("window_total", .natural stats.windowTotal),
    ("recorded", .natural stats.recorded),
    ("pending_expirations", .natural stats.pendingExpirations),
    ("rotations", .natural stats.rotations)]

end LoadStats
end LoadAtlas
