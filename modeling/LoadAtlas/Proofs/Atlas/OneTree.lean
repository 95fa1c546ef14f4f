import LoadAtlas.Proofs.Atlas.Rooted
import LoadAtlas.Proofs.Forest.Walk
import Mathlib.Data.List.Forall2

/-!
# One tree behind all views

The centroids of an entity come from its set of active cells, their weights from the table, the
number of its clients from both, and the statistics from the sizes of tables and sets.  A walk
uses none of these: it asks for the top cells, and then for one cell after the other.  All of
them describe one tree, the one that the walk meets.
-/

namespace LoadAtlas

/-! ## Centroids and features -/

section

variable {Item Result Fault : Type} {make : Item → Except Fault Result}
  {Related : Item → Result → Prop} {items : List Item} {results : List Result} {result : Result}

end

namespace Atlas

variable {atlas : Atlas} {entity : String} {territory : Territory} {cells : List CellId}
  {centroids : List WeightedCentroid}

/-- The reports of all cells of an entity, as a walk meets them. -/
def walk (atlas : Atlas) (entity : String) : List CellReport :=
  (atlas.reports? entity).getD []

/-- The reports of the cells without children. -/
def leaves (atlas : Atlas) (entity : String) : List CellReport :=
  (atlas.walk entity).filter CellReport.isLeaf

end Atlas

end LoadAtlas
