import LoadAtlas.Atlas.Centroid
import LoadAtlas.Cell.Token
import LoadAtlas.Json.Tree

/-!
# Distributions as GeoJSON

A distribution is written as a feature collection: one polygon for each centroid, along the
border of its cell and back to its first corner, with the cell's token, level, centre and
number of clients as properties.
-/

namespace LoadAtlas
namespace GeoJson

def position (location : Location) : Json.Tree :=
  .list [.float location.longitude, .float location.latitude]

/-- The closed border through the given corners. -/
def ring (corners : List Location) : Json.Tree :=
  .list ((corners ++ corners.take 1).map position)

def polygon (corners : List Location) : Json.Tree :=
  .object [("type", .text "Polygon"), ("coordinates", .list [ring corners])]

def properties (centroid : WeightedCentroid) : Json.Tree :=
  .object [("cell", .text centroid.cell.token), ("center", position centroid.center),
    ("count", .natural centroid.count), ("level", .natural centroid.level)]

def feature (centroid : WeightedCentroid) : Except NoShape Json.Tree := do
  return .object [("type", .text "Feature"),
    ("geometry", polygon (← centroid.cell.vertices)), ("properties", properties centroid)]

/-- The feature collection of a list of centroids. -/
def distribution (centroids : List WeightedCentroid) : Except NoShape Json.Tree := do
  return .object [("type", .text "FeatureCollection"),
    ("features", .list (← centroids.mapM feature))]

end GeoJson

def Atlas.distribution (atlas : Atlas) (entity : String) :
    Except NoShape (Option Json.Tree) := do
  match ← atlas.weightedCentroids entity with
  | none => return none
  | some centroids => return some (← GeoJson.distribution centroids)

end LoadAtlas
