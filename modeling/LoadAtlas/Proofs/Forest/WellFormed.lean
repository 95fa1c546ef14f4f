import LoadAtlas.Forest.Basic
import LoadAtlas.Proofs.Bucket.Within
import Mathlib.Data.List.Nodup

/-!
# Well-formed forests

The table of cells, the top cells, the active cells, the lists of children and the tallies of a
forest say the same things several times over.  A forest is well formed if they agree, if cells
nest as the globe's cells do, and if every bucket is counted in the leaf that its location
falls into.  The last part is what lets a later descent find a bucket again.

From this it follows that the leaves do not overlap, so no location falls into two of them and
no key is counted twice.
-/

namespace LoadAtlas

namespace Cell

@[simp]
theorem isLeaf_empty : Cell.empty.isLeaf = true :=
  rfl

theorem isLeaf_iff {cell : Cell} : cell.isLeaf = true ↔ cell.children = [] :=
  List.isEmpty_iff

theorem isLeaf_eq_false_iff {cell : Cell} : cell.isLeaf = false ↔ cell.children ≠ [] := by
  rw [← Bool.not_eq_true, isLeaf_iff]

theorem isLeaf_eq_false_of_mem {cell : Cell} {child : CellId} (member : child ∈ cell.children) :
    cell.isLeaf = false :=
  isLeaf_eq_false_iff.mpr (List.ne_nil_of_mem member)

end Cell

/-- What a forest keeps true of each cell by itself: it lists no child twice, it counts nothing
once it was split, its tally is sound, and its buckets fall into it. -/
structure Cell.Sound (id : CellId) (cell : Cell) : Prop where
  nodup : cell.children.Nodup
  split : cell.isLeaf = false → cell.tally = Tally.empty
  tally : cell.tally.Sound
  placed : ∀ (key : String) (bucket : Bucket), cell.tally.buckets[key]? = some bucket →
    bucket.location.FallsInto id

namespace Cell

theorem sound_of_no_tally {id : CellId} {children : List CellId} (nodup : children.Nodup) :
    Cell.Sound id { children } where
  nodup := nodup
  split _ := rfl
  tally := Tally.sound_empty
  placed key bucket present := by simp at present

theorem sound_empty (id : CellId) : empty.Sound id :=
  sound_of_no_tally List.nodup_nil

theorem sound_leaf {id : CellId} {tally : Tally} (sound : tally.Sound)
    (placed : ∀ (key : String) (bucket : Bucket), tally.buckets[key]? = some bucket →
      bucket.location.FallsInto id) : Cell.Sound id { tally } where
  nodup := List.nodup_nil
  split isSplit := by simp [isLeaf] at isSplit
  tally := sound
  placed := placed

end Cell

namespace Forest

/-- The parts of a forest fit together, with top cells on one level and no cell below another
level. -/
structure WellFormed (topLevel maxLevel : Nat) (forest : Forest) : Prop where
  isCell : ∀ {id : CellId} {cell : Cell}, forest.cells[id]? = some cell → id.IsCell
  levels : ∀ {id : CellId} {cell : Cell}, forest.cells[id]? = some cell →
    topLevel ≤ id.level ∧ id.level ≤ maxLevel
  /-- The top cells are the cells of the top level. -/
  tops : ∀ id : CellId, id ∈ forest.tops ↔ id ∈ forest.cells ∧ id.level = topLevel
  /-- Every other cell is a child of the cell around it. -/
  parent : ∀ {id : CellId} {cell : Cell}, forest.cells[id]? = some cell → topLevel < id.level →
    ∃ parent : Cell, forest.cells[id.ancestor (id.level - 1)]? = some parent ∧
      id ∈ parent.children
  /-- The children of a cell are there and lie inside it, one level deeper. -/
  child : ∀ {id : CellId} {cell : Cell} {child : CellId}, forest.cells[id]? = some cell →
    child ∈ cell.children →
      child ∈ forest.cells ∧ child.level = id.level + 1 ∧ id.contains child = true
  /-- The active cells are the leaves. -/
  active : ∀ id : CellId, id ∈ forest.active ↔
    ∃ cell : Cell, forest.cells[id]? = some cell ∧ cell.isLeaf = true
  sound : ∀ {id : CellId} {cell : Cell}, forest.cells[id]? = some cell → cell.Sound id

theorem wellFormed_empty (topLevel maxLevel : Nat) : empty.WellFormed topLevel maxLevel := by
  constructor <;> simp [empty]

theorem mem_cells_iff {forest : Forest} {id : CellId} :
    id ∈ forest.cells ↔ ∃ cell : Cell, forest.cells[id]? = some cell := by
  rw [Std.ExtTreeMap.mem_iff_isSome_getElem?, Option.isSome_iff_exists]

/-- The cells of a forest nest, whatever is counted in them. -/
structure Shaped (topLevel maxLevel : Nat) (forest : Forest) : Prop where
  isCell : ∀ {id : CellId} {cell : Cell}, forest.cells[id]? = some cell → id.IsCell
  levels : ∀ {id : CellId} {cell : Cell}, forest.cells[id]? = some cell →
    topLevel ≤ id.level ∧ id.level ≤ maxLevel
  parent : ∀ {id : CellId} {cell : Cell}, forest.cells[id]? = some cell → topLevel < id.level →
    ∃ parent : Cell, forest.cells[id.ancestor (id.level - 1)]? = some parent ∧
      id ∈ parent.children
  child : ∀ {id : CellId} {cell : Cell} {child : CellId}, forest.cells[id]? = some cell →
    child ∈ cell.children →
      child ∈ forest.cells ∧ child.level = id.level + 1 ∧ id.contains child = true
  active : ∀ id : CellId, id ∈ forest.active ↔
    ∃ cell : Cell, forest.cells[id]? = some cell ∧ cell.isLeaf = true

section

variable {topLevel maxLevel : Nat} {forest : Forest} {id other : CellId} {cell : Cell}

theorem WellFormed.shaped (wellFormed : forest.WellFormed topLevel maxLevel) :
    forest.Shaped topLevel maxLevel :=
  ⟨wellFormed.isCell, wellFormed.levels, wellFormed.parent, wellFormed.child, wellFormed.active⟩

namespace Shaped

theorem wellFormed (shaped : forest.Shaped topLevel maxLevel)
    (tops : ∀ id : CellId, id ∈ forest.tops ↔ id ∈ forest.cells ∧ id.level = topLevel)
    (sound : ∀ {id : CellId} {cell : Cell}, forest.cells[id]? = some cell → cell.Sound id) :
    forest.WellFormed topLevel maxLevel :=
  ⟨shaped.isCell, shaped.levels, tops, shaped.parent, shaped.child, shaped.active, sound⟩

/-- Above every cell the table holds the whole chain of its ancestors, each a child of the
one before. -/
theorem exists_ancestor_of_lt (shaped : forest.Shaped topLevel maxLevel)
    (present : forest.cells[id]? = some cell) {level : Nat} (above : level < id.level)
    (notAboveTop : topLevel ≤ level) :
    ∃ parent : Cell, forest.cells[id.ancestor level]? = some parent ∧
      id.ancestor (level + 1) ∈ parent.children := by
  obtain ⟨distance, distanceEq⟩ : ∃ distance, id.level = level + distance + 1 :=
    ⟨id.level - level - 1, by omega⟩
  induction distance generalizing id cell with
  | zero =>
      obtain ⟨parent, parentPresent, member⟩ := shaped.parent present (by omega)
      have itself : id.ancestor (level + 1) = id := by
        rw [show level + 1 = id.level by omega]
        exact shaped.isCell present
      rw [show id.level - 1 = level by omega] at parentPresent
      exact ⟨parent, parentPresent, by rwa [itself]⟩
  | succ distance induction =>
      obtain ⟨parent, parentPresent, _⟩ := shaped.parent present (by omega)
      have bounded := id.level_le_finest
      have parentLevel : (id.ancestor (id.level - 1)).level = id.level - 1 :=
        CellId.level_ancestor id (by omega)
      have lifted := induction parentPresent (by omega) (by omega)
      rwa [CellId.ancestor_ancestor id (by omega), CellId.ancestor_ancestor id (by omega)]
        at lifted

theorem exists_ancestor (shaped : forest.Shaped topLevel maxLevel)
    (present : forest.cells[id]? = some cell) {level : Nat} (above : level ≤ id.level)
    (notAboveTop : topLevel ≤ level) :
    ∃ ancestor : Cell, forest.cells[id.ancestor level]? = some ancestor := by
  by_cases same : level = id.level
  · subst same
    exact ⟨cell, by rwa [shaped.isCell present]⟩
  · obtain ⟨parent, parentPresent, _⟩ :=
      shaped.exists_ancestor_of_lt present (show level < id.level by omega) notAboveTop
    exact ⟨parent, parentPresent⟩

/-- A cell around another cell of the forest has the child on the way to it. -/
theorem child_toward (shaped : forest.Shaped topLevel maxLevel) {outerCell : Cell}
    (outerPresent : forest.cells[id]? = some outerCell)
    (present : forest.cells[other]? = some cell) (inside : id.contains other = true)
    (different : id ≠ other) :
    id.level < other.level ∧ other.ancestor (id.level + 1) ∈ outerCell.children := by
  have outerIsCell := shaped.isCell outerPresent
  have isCell := shaped.isCell present
  have deeper := CellId.level_lt_of_contains_of_ne outerIsCell isCell inside different
  obtain ⟨parent, parentPresent, member⟩ :=
    shaped.exists_ancestor_of_lt present deeper (shaped.levels outerPresent).1
  rw [CellId.ancestor_eq_of_contains outerIsCell isCell inside, outerPresent] at parentPresent
  obtain rfl : outerCell = parent := by simpa using parentPresent
  exact ⟨deeper, member⟩

theorem eq_of_leaf_contains (shaped : forest.Shaped topLevel maxLevel) {leaf : Cell}
    (leafPresent : forest.cells[id]? = some leaf) (isLeaf : leaf.isLeaf = true)
    (present : forest.cells[other]? = some cell) (inside : id.contains other = true) :
    id = other := by
  by_contra different
  obtain ⟨_, member⟩ := shaped.child_toward leafPresent present inside different
  rw [Cell.isLeaf_iff.mp isLeaf] at member
  exact List.not_mem_nil member

end Shaped

end

namespace WellFormed

variable {topLevel maxLevel : Nat} {forest : Forest} {id other : CellId} {cell : Cell}

theorem isCell_of_mem (wellFormed : forest.WellFormed topLevel maxLevel)
    (member : id ∈ forest.cells) : id.IsCell := by
  obtain ⟨_, present⟩ := mem_cells_iff.mp member
  exact wellFormed.isCell present

/-- Two leaves share no part of the globe. -/
theorem eq_of_leaves_contain (wellFormed : forest.WellFormed topLevel maxLevel) {inner : CellId}
    {first second : Cell} (firstPresent : forest.cells[id]? = some first)
    (firstLeaf : first.isLeaf = true) (secondPresent : forest.cells[other]? = some second)
    (secondLeaf : second.isLeaf = true) (isCell : inner.IsCell)
    (inFirst : id.contains inner = true) (inSecond : other.contains inner = true) :
    id = other := by
  have firstIsCell := wellFormed.isCell firstPresent
  have secondIsCell := wellFormed.isCell secondPresent
  rcases Nat.le_total id.level other.level with coarser | finer
  · exact wellFormed.shaped.eq_of_leaf_contains firstPresent firstLeaf secondPresent
      (CellId.contains_of_common firstIsCell secondIsCell isCell inFirst inSecond coarser)
  · exact (wellFormed.shaped.eq_of_leaf_contains secondPresent secondLeaf firstPresent
      (CellId.contains_of_common secondIsCell firstIsCell isCell inSecond inFirst finer)).symm

theorem leaf_unique (wellFormed : forest.WellFormed topLevel maxLevel) {location : Location}
    {first second : Cell} (firstPresent : forest.cells[id]? = some first)
    (firstLeaf : first.isLeaf = true) (secondPresent : forest.cells[other]? = some second)
    (secondLeaf : second.isLeaf = true) (inFirst : location.FallsInto id)
    (inSecond : location.FallsInto other) : id = other := by
  rcases Nat.le_total id.level other.level with coarser | finer
  · exact wellFormed.shaped.eq_of_leaf_contains firstPresent firstLeaf secondPresent
      (inFirst.contains inSecond coarser)
  · exact (wellFormed.shaped.eq_of_leaf_contains secondPresent secondLeaf firstPresent
      (inSecond.contains inFirst finer)).symm

theorem isLeaf_of_bucket (wellFormed : forest.WellFormed topLevel maxLevel)
    (present : forest.cells[id]? = some cell) {key : String} {bucket : Bucket}
    (held : cell.tally.buckets[key]? = some bucket) : cell.isLeaf = true := by
  by_contra split
  rw [(wellFormed.sound present).split (by simpa using split)] at held
  simp [Tally.empty] at held

theorem cell_unique_of_key (wellFormed : forest.WellFormed topLevel maxLevel) {key : String}
    {first second : Cell} {firstBucket secondBucket : Bucket}
    (firstPresent : forest.cells[id]? = some first)
    (firstHeld : first.tally.buckets[key]? = some firstBucket)
    (secondPresent : forest.cells[other]? = some second)
    (secondHeld : second.tally.buckets[key]? = some secondBucket) : id = other := by
  have firstLocated :=
    ((wellFormed.sound firstPresent).tally.buckets key firstBucket firstHeld).located
  have secondLocated :=
    ((wellFormed.sound secondPresent).tally.buckets key secondBucket secondHeld).located
  have sameLocation : firstBucket.location = secondBucket.location := by
    rw [firstLocated] at secondLocated
    simpa using secondLocated
  have inSecond := (wellFormed.sound secondPresent).placed key secondBucket secondHeld
  rw [← sameLocation] at inSecond
  exact wellFormed.leaf_unique firstPresent (wellFormed.isLeaf_of_bucket firstPresent firstHeld)
    secondPresent (wellFormed.isLeaf_of_bucket secondPresent secondHeld)
    ((wellFormed.sound firstPresent).placed key firstBucket firstHeld) inSecond

/-- A cell is listed as a child once, by the cell around it, and by no other. -/
theorem parent_unique (wellFormed : forest.WellFormed topLevel maxLevel)
    (present : forest.cells[id]? = some cell) {child : CellId} (member : child ∈ cell.children) :
    id = child.ancestor id.level ∧ id = child.ancestor (child.level - 1) ∧
      cell.children.count child = 1 := by
  obtain ⟨childMember, level, inside⟩ := wellFormed.child present member
  obtain ⟨childCell, childPresent⟩ := mem_cells_iff.mp childMember
  have ancestor := CellId.ancestor_eq_of_contains (wellFormed.isCell present)
    (wellFormed.isCell childPresent) inside
  refine ⟨ancestor.symm, ?_, List.count_eq_one_of_mem (wellFormed.sound present).nodup member⟩
  rw [show child.level - 1 = id.level by omega, ancestor]

end WellFormed

end Forest

end LoadAtlas
