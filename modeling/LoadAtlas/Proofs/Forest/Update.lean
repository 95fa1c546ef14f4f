import LoadAtlas.Proofs.Forest.WellFormed

/-!
# Updates of forests

Three small updates make up everything that happens to a forest between splits and merges: a
leaf gets another tally, a new top cell appears, and a split cell gets one more child.  Each of
them keeps a forest well formed.

The weight of a forest is the weight of all its tallies.  A new tally changes it by the
difference of the two tallies, and a cell that appears with no clients does not change it.
-/

namespace LoadAtlas

namespace Forest

section Fields

variable (forest : Forest) (id : CellId) (cell : Cell)

@[simp]
theorem cells_insertLeaf : (forest.insertLeaf id cell).cells = forest.cells.insert id cell :=
  rfl

@[simp]
theorem active_insertLeaf : (forest.insertLeaf id cell).active = forest.active.insert id :=
  rfl

@[simp]
theorem tops_insertLeaf : (forest.insertLeaf id cell).tops = forest.tops :=
  rfl

@[simp]
theorem cells_removeLeaf : (forest.removeLeaf id).cells = forest.cells.erase id :=
  rfl

@[simp]
theorem active_removeLeaf : (forest.removeLeaf id).active = forest.active.erase id :=
  rfl

@[simp]
theorem tops_removeLeaf : (forest.removeLeaf id).tops = forest.tops :=
  rfl

@[simp]
theorem cells_setCell : (forest.setCell id cell).cells = forest.cells.insert id cell :=
  rfl

@[simp]
theorem active_setCell : (forest.setCell id cell).active = forest.active :=
  rfl

@[simp]
theorem tops_setCell : (forest.setCell id cell).tops = forest.tops :=
  rfl

end Fields

/-- The counts of all cells of a forest, each times the weight of its key. -/
def weigh (weight : String → Nat) (forest : Forest) : Nat :=
  Table.sum (fun _ cell => cell.tally.buckets.weigh weight) forest.cells

/-- The number of clients with a key, in all cells of a forest together. -/
def countOf (forest : Forest) (key : String) : Nat :=
  Table.sum (fun _ cell => cell.tally.buckets.countOf key) forest.cells

theorem countOf_eq_weigh (forest : Forest) (key : String) :
    forest.countOf key = forest.weigh (BucketTable.only key) := by
  simp only [countOf, weigh, BucketTable.countOf_eq_weigh]

@[simp]
theorem weigh_empty (weight : String → Nat) : empty.weigh weight = 0 :=
  Table.sum_empty _

theorem weigh_zero (forest : Forest) : (forest.weigh fun _ => 0) = 0 := by
  simp [weigh, BucketTable.weigh, Table.sum]

section Weight

variable (weight : String → Nat) {forest : Forest} {id : CellId} {cell : Cell}

theorem weigh_pos_iff : 0 < forest.weigh weight ↔
    ∃ (id : CellId) (cell : Cell) (key : String) (bucket : Bucket),
      forest.cells[id]? = some cell ∧ cell.tally.buckets[key]? = some bucket ∧
        0 < weight key * bucket.count := by
  simp only [weigh, BucketTable.weigh, Table.sum_pos_iff, ← exists_and_left]

theorem weigh_setCell (present : forest.cells[id]? = some cell) (changed : Cell) :
    (forest.setCell id changed).weigh weight + cell.tally.buckets.weigh weight =
      forest.weigh weight + changed.tally.buckets.weigh weight :=
  Table.sum_insert_of_present (fun _ (cell : Cell) => cell.tally.buckets.weigh weight) present
    changed

theorem weigh_insertLeaf (absent : forest.cells[id]? = none) (leaf : Cell) :
    (forest.insertLeaf id leaf).weigh weight =
      forest.weigh weight + leaf.tally.buckets.weigh weight :=
  Table.sum_insert_of_absent (fun _ (cell : Cell) => cell.tally.buckets.weigh weight) absent leaf

end Weight

/-- A forest that came out of another one is well formed and holds the same clients. -/
structure Kept (topLevel maxLevel : Nat) (before after : Forest) : Prop where
  wellFormed : after.WellFormed topLevel maxLevel
  weigh : ∀ weight, after.weigh weight = before.weigh weight

namespace Kept

variable {topLevel maxLevel : Nat} {first second third : Forest}

theorem refl (wellFormed : first.WellFormed topLevel maxLevel) :
    Kept topLevel maxLevel first first :=
  ⟨wellFormed, fun _ => rfl⟩

theorem trans (earlier : Kept topLevel maxLevel first second)
    (later : Kept topLevel maxLevel second third) : Kept topLevel maxLevel first third :=
  ⟨later.wellFormed, fun weight => (later.weigh weight).trans (earlier.weigh weight)⟩

theorem countOf (kept : Kept topLevel maxLevel first second) (key : String) :
    second.countOf key = first.countOf key := by
  rw [countOf_eq_weigh, countOf_eq_weigh, kept.weigh]

end Kept

/-! ## Another tally -/

/-- Two forests have the same cells with the same children. -/
structure SameShape (before after : Forest) : Prop where
  tops : after.tops = before.tops
  active : after.active = before.active
  children : ∀ id : CellId,
    after.cells[id]?.map Cell.children = before.cells[id]?.map Cell.children

namespace SameShape

variable {before after : Forest} {id : CellId} {cell : Cell}

theorem symm (same : SameShape before after) : SameShape after before :=
  ⟨same.tops.symm, same.active.symm, fun id => (same.children id).symm⟩

theorem exists_later (same : SameShape before after) (present : before.cells[id]? = some cell) :
    ∃ later : Cell, after.cells[id]? = some later ∧ later.children = cell.children := by
  have children := same.children id
  rw [present] at children
  exact Option.map_eq_some_iff.mp children

theorem mem_cells (same : SameShape before after) (member : id ∈ before.cells) :
    id ∈ after.cells := by
  obtain ⟨cell, present⟩ := mem_cells_iff.mp member
  obtain ⟨later, laterPresent, _⟩ := same.exists_later present
  exact mem_cells_iff.mpr ⟨later, laterPresent⟩

theorem exists_later_leaf (same : SameShape before after)
    (leaf : ∃ cell : Cell, before.cells[id]? = some cell ∧ cell.isLeaf = true) :
    ∃ cell : Cell, after.cells[id]? = some cell ∧ cell.isLeaf = true := by
  obtain ⟨cell, present, isLeaf⟩ := leaf
  obtain ⟨later, laterPresent, children⟩ := same.exists_later present
  exact ⟨later, laterPresent, by rwa [Cell.isLeaf, children]⟩

end SameShape

theorem sameShape_setCell {forest : Forest} {id : CellId} {cell : Cell}
    (present : forest.cells[id]? = some cell) (tally : Tally) :
    SameShape forest (forest.setCell id { cell with tally }) := by
  refine ⟨rfl, rfl, fun other => ?_⟩
  rw [cells_setCell, Std.ExtTreeMap.getElem?_insert]
  split
  · simp_all
  · rfl

theorem Shaped.reshape {topLevel maxLevel : Nat} {before after : Forest}
    (shaped : before.Shaped topLevel maxLevel) (same : SameShape before after) :
    after.Shaped topLevel maxLevel where
  isCell present := by
    obtain ⟨_, earlier, _⟩ := same.symm.exists_later present
    exact shaped.isCell earlier
  levels present := by
    obtain ⟨_, earlier, _⟩ := same.symm.exists_later present
    exact shaped.levels earlier
  parent present deep := by
    obtain ⟨_, earlier, _⟩ := same.symm.exists_later present
    obtain ⟨parent, parentEarlier, member⟩ := shaped.parent earlier deep
    obtain ⟨later, laterPresent, children⟩ := same.exists_later parentEarlier
    exact ⟨later, laterPresent, by rwa [children]⟩
  child present member := by
    obtain ⟨_, earlier, children⟩ := same.symm.exists_later present
    rw [← children] at member
    obtain ⟨there, inside⟩ := shaped.child earlier member
    exact ⟨same.mem_cells there, inside⟩
  active id := by
    rw [same.active, shaped.active]
    exact ⟨same.exists_later_leaf, same.symm.exists_later_leaf⟩

namespace WellFormed

variable {topLevel maxLevel : Nat} {before after forest : Forest} {id : CellId} {cell : Cell}

theorem reshape (wellFormed : before.WellFormed topLevel maxLevel)
    (same : SameShape before after)
    (sound : ∀ {id : CellId} {cell : Cell}, after.cells[id]? = some cell → cell.Sound id) :
    after.WellFormed topLevel maxLevel :=
  (wellFormed.shaped.reshape same).wellFormed
    (fun id => by
      rw [same.tops, wellFormed.tops]
      exact and_congr_left fun _ => ⟨same.mem_cells, same.symm.mem_cells⟩)
    sound

theorem retally (wellFormed : forest.WellFormed topLevel maxLevel)
    (present : forest.cells[id]? = some cell) (isLeaf : cell.isLeaf = true) {tally : Tally}
    (sound : tally.Sound)
    (placed : ∀ (key : String) (bucket : Bucket), tally.buckets[key]? = some bucket →
      bucket.location.FallsInto id) :
    (forest.setCell id { cell with tally }).WellFormed topLevel maxLevel := by
  refine wellFormed.reshape (sameShape_setCell present tally) fun {other found} foundPresent => ?_
  rw [cells_setCell, Std.ExtTreeMap.getElem?_insert] at foundPresent
  by_cases here : id = other
  · subst here
    obtain rfl : { cell with tally } = found := by simpa using foundPresent
    rw [Cell.isLeaf_iff.mp isLeaf]
    exact Cell.sound_leaf sound placed
  · rw [if_neg (by simpa using here)] at foundPresent
    exact wellFormed.sound foundPresent

end WellFormed

/-! ## A new top cell -/

/-- The forest with a new top cell. -/
def withTop (forest : Forest) (id : CellId) : Forest :=
  { forest with tops := forest.tops.insert id }.insertLeaf id Cell.empty

section Top

variable {topLevel maxLevel : Nat} {forest : Forest} {id other : CellId} {cell : Cell}

theorem getElem?_withTop (forest : Forest) (id other : CellId) :
    (forest.withTop id).cells[other]? =
      if id = other then some Cell.empty else forest.cells[other]? := by
  simp [withTop, Std.ExtTreeMap.getElem?_insert]

theorem getElem?_withTop_of_present (absent : forest.cells[id]? = none)
    (present : forest.cells[other]? = some cell) :
    (forest.withTop id).cells[other]? = some cell := by
  have different : id ≠ other := by
    rintro rfl
    simp [absent] at present
  rw [getElem?_withTop, if_neg different, present]

theorem cases_withTop (present : (forest.withTop id).cells[other]? = some cell) :
    id = other ∧ Cell.empty = cell ∨ forest.cells[other]? = some cell := by
  rw [getElem?_withTop] at present
  by_cases same : id = other
  · rw [if_pos same] at present
    exact .inl ⟨same, Option.some.inj present⟩
  · rw [if_neg same] at present
    exact .inr present

theorem mem_withTop_iff :
    other ∈ (forest.withTop id).cells ↔ id = other ∨ other ∈ forest.cells := by
  simp [withTop]

theorem WellFormed.withTop (wellFormed : forest.WellFormed topLevel maxLevel)
    (absent : forest.cells[id]? = none) (isCell : id.IsCell) (level : id.level = topLevel)
    (ordered : topLevel ≤ maxLevel) : (forest.withTop id).WellFormed topLevel maxLevel where
  isCell present := by
    rcases cases_withTop present with ⟨rfl, _⟩ | earlier
    · exact isCell
    · exact wellFormed.isCell earlier
  levels present := by
    rcases cases_withTop present with ⟨rfl, _⟩ | earlier
    · omega
    · exact wellFormed.levels earlier
  tops other := by
    have tops : other ∈ (forest.withTop id).tops ↔ id = other ∨ other ∈ forest.tops := by
      simp [Forest.withTop]
    rw [tops, mem_withTop_iff, wellFormed.tops, or_and_right]
    refine or_congr_left ⟨?_, And.left⟩
    rintro rfl
    exact ⟨rfl, level⟩
  parent present deep := by
    rcases cases_withTop present with ⟨rfl, _⟩ | earlier
    · omega
    · obtain ⟨parent, parentPresent, member⟩ := wellFormed.parent earlier deep
      exact ⟨parent, getElem?_withTop_of_present absent parentPresent, member⟩
  child present member := by
    rcases cases_withTop present with ⟨_, rfl⟩ | earlier
    · simp [Cell.empty] at member
    · obtain ⟨there, inside⟩ := wellFormed.child earlier member
      exact ⟨mem_withTop_iff.mpr (.inr there), inside⟩
  active other := by
    have active : other ∈ (forest.withTop id).active ↔ id = other ∨ other ∈ forest.active := by
      simp [Forest.withTop]
    rw [active, wellFormed.active]
    constructor
    · rintro (rfl | ⟨old, earlier, isLeaf⟩)
      · exact ⟨Cell.empty, by rw [getElem?_withTop, if_pos rfl], rfl⟩
      · exact ⟨old, getElem?_withTop_of_present absent earlier, isLeaf⟩
    · rintro ⟨found, present, isLeaf⟩
      rcases cases_withTop present with ⟨rfl, _⟩ | earlier
      · exact .inl rfl
      · exact .inr ⟨found, earlier, isLeaf⟩
  sound {other found} present := by
    rcases cases_withTop present with ⟨_, rfl⟩ | earlier
    · exact Cell.sound_empty other
    · exact wellFormed.sound earlier

end Top

/-! ## More children -/

/-- One forest grew out of another one below a cell: the cell lists more children, each of them
is a new leaf, and nothing else changed. -/
structure Grown (before after : Forest) (id : CellId) (fresh : List CellId) : Prop where
  tops : after.tops = before.tops
  active : ∀ other : CellId,
    other ∈ after.active ↔ other ∈ fresh ∨ other ≠ id ∧ other ∈ before.active
  parent : ∃ old new : Cell, before.cells[id]? = some old ∧ after.cells[id]? = some new ∧
    new.children = old.children ++ fresh
  absent : ∀ child ∈ fresh, before.cells[child]? = none
  leaf : ∀ child ∈ fresh, ∃ leaf : Cell, after.cells[child]? = some leaf ∧ leaf.isLeaf = true
  others : ∀ other : CellId, other ≠ id → other ∉ fresh →
    after.cells[other]? = before.cells[other]?

namespace Grown

variable {before after : Forest} {id other : CellId} {fresh : List CellId} {cell : Cell}

theorem not_mem_of_present (grown : Grown before after id fresh)
    (present : before.cells[other]? = some cell) : other ∉ fresh := by
  intro member
  have absent := grown.absent other member
  simp [present] at absent

theorem origin (grown : Grown before after id fresh)
    (present : after.cells[other]? = some cell) :
    (other = id ∧ ∃ old : Cell, before.cells[id]? = some old ∧
        cell.children = old.children ++ fresh) ∨
      (other ∈ fresh ∧ cell.isLeaf = true) ∨
      (other ≠ id ∧ before.cells[other]? = some cell) := by
  by_cases same : other = id
  · obtain ⟨old, new, earlier, later, children⟩ := grown.parent
    rw [same, later] at present
    obtain rfl : new = cell := Option.some.inj present
    exact .inl ⟨same, old, earlier, children⟩
  · by_cases member : other ∈ fresh
    · obtain ⟨leaf, leafPresent, isLeaf⟩ := grown.leaf other member
      obtain rfl : leaf = cell := by simpa [leafPresent] using present
      exact .inr (.inl ⟨member, isLeaf⟩)
    · exact .inr (.inr ⟨same, by rwa [← grown.others other same member]⟩)

/-- No cell is lost, and none loses a child. -/
theorem exists_later (grown : Grown before after id fresh)
    (present : before.cells[other]? = some cell) :
    ∃ later : Cell, after.cells[other]? = some later ∧ cell.children ⊆ later.children := by
  by_cases same : other = id
  · subst same
    obtain ⟨old, new, earlier, later, children⟩ := grown.parent
    obtain rfl : old = cell := by simpa [earlier] using present
    exact ⟨new, later, by rw [children]; exact List.subset_append_left _ _⟩
  · have notFresh := grown.not_mem_of_present present
    exact ⟨cell, by rwa [grown.others other same notFresh], List.Subset.refl _⟩

theorem mem_cells (grown : Grown before after id fresh) (member : other ∈ before.cells) :
    other ∈ after.cells := by
  obtain ⟨cell, present⟩ := mem_cells_iff.mp member
  obtain ⟨later, laterPresent, _⟩ := grown.exists_later present
  exact mem_cells_iff.mpr ⟨later, laterPresent⟩

theorem mem_cells_of_fresh (grown : Grown before after id fresh) (member : other ∈ fresh) :
    other ∈ after.cells := by
  obtain ⟨leaf, leafPresent, _⟩ := grown.leaf other member
  exact mem_cells_iff.mpr ⟨leaf, leafPresent⟩

end Grown

namespace Shaped

variable {topLevel maxLevel : Nat} {before after : Forest} {id other child : CellId}
  {fresh : List CellId} {cell : Cell}

section

variable (shaped : before.Shaped topLevel maxLevel) (grown : Grown before after id fresh)

include shaped grown

theorem isCell_of_grown (isCell : ∀ child ∈ fresh, child.IsCell)
    (present : after.cells[other]? = some cell) : other.IsCell := by
  rcases grown.origin present with ⟨rfl, _, earlier, _⟩ | ⟨member, _⟩ | ⟨_, earlier⟩
  · exact shaped.isCell earlier
  · exact isCell other member
  · exact shaped.isCell earlier

/-- The active cells are still the leaves, as the grown cell is none any more. -/
theorem mem_active_of_grown_iff (nonempty : fresh ≠ []) : other ∈ after.active ↔
    ∃ cell : Cell, after.cells[other]? = some cell ∧ cell.isLeaf = true := by
  rw [grown.active, shaped.active]
  constructor
  · rintro (member | ⟨different, cell, present, isLeaf⟩)
    · exact grown.leaf other member
    · have notFresh := grown.not_mem_of_present present
      exact ⟨cell, by rwa [grown.others other different notFresh], isLeaf⟩
  · rintro ⟨cell, present, isLeaf⟩
    rcases grown.origin present with ⟨_, old, _, children⟩ | ⟨member, _⟩ | ⟨different, earlier⟩
    · rw [Cell.isLeaf_iff, children] at isLeaf
      exact absurd (List.append_eq_nil_iff.mp isLeaf).2 nonempty
    · exact .inl member
    · exact .inr ⟨different, cell, earlier, isLeaf⟩

variable (inside : ∀ child ∈ fresh, child.level = id.level + 1 ∧ id.contains child = true)

include inside

theorem levels_of_grown (room : id.level < maxLevel) (present : after.cells[other]? = some cell) :
    topLevel ≤ other.level ∧ other.level ≤ maxLevel := by
  rcases grown.origin present with ⟨rfl, _, earlier, _⟩ | ⟨member, _⟩ | ⟨_, earlier⟩
  · exact shaped.levels earlier
  · obtain ⟨old, _, oldPresent, _⟩ := grown.parent
    have bounds := shaped.levels oldPresent
    have level := (inside other member).1
    omega
  · exact shaped.levels earlier

theorem parent_of_grown (isCell : ∀ child ∈ fresh, child.IsCell)
    (present : after.cells[other]? = some cell) (deep : topLevel < other.level) :
    ∃ parent : Cell, after.cells[other.ancestor (other.level - 1)]? = some parent ∧
      other ∈ parent.children := by
  have fromBefore : ∀ {old : Cell}, before.cells[other]? = some old →
      ∃ parent : Cell, after.cells[other.ancestor (other.level - 1)]? = some parent ∧
        other ∈ parent.children := by
    intro old earlier
    obtain ⟨parent, parentPresent, member⟩ := shaped.parent earlier deep
    obtain ⟨later, laterPresent, subset⟩ := grown.exists_later parentPresent
    exact ⟨later, laterPresent, subset member⟩
  rcases grown.origin present with ⟨rfl, _, earlier, _⟩ | ⟨member, _⟩ | ⟨_, earlier⟩
  · exact fromBefore earlier
  · obtain ⟨old, new, oldPresent, newPresent, children⟩ := grown.parent
    obtain ⟨level, contained⟩ := inside other member
    have ancestor := CellId.ancestor_eq_of_contains (shaped.isCell oldPresent)
      (isCell other member) contained
    rw [show other.level - 1 = id.level by omega, ancestor]
    exact ⟨new, newPresent, by rw [children]; exact List.mem_append_right _ member⟩
  · exact fromBefore earlier

theorem child_of_grown (present : after.cells[other]? = some cell)
    (member : child ∈ cell.children) :
    child ∈ after.cells ∧ child.level = other.level + 1 ∧ other.contains child = true := by
  have fromBefore : ∀ {old : Cell}, before.cells[other]? = some old → child ∈ old.children →
      child ∈ after.cells ∧ child.level = other.level + 1 ∧ other.contains child = true := by
    intro old earlier listed
    obtain ⟨there, below⟩ := shaped.child earlier listed
    exact ⟨grown.mem_cells there, below⟩
  rcases grown.origin present with ⟨rfl, old, earlier, children⟩ | ⟨_, isLeaf⟩ | ⟨_, earlier⟩
  · rw [children, List.mem_append] at member
    rcases member with listed | isFresh
    · exact fromBefore earlier listed
    · exact ⟨grown.mem_cells_of_fresh isFresh, inside child isFresh⟩
  · rw [Cell.isLeaf_iff.mp isLeaf] at member
    exact absurd member List.not_mem_nil
  · exact fromBefore earlier member

end

/-- A forest keeps its shape when it grows by children that lie where they should. -/
theorem grow (shaped : before.Shaped topLevel maxLevel) (grown : Grown before after id fresh)
    (nonempty : fresh ≠ []) (room : id.level < maxLevel) (isCell : ∀ child ∈ fresh, child.IsCell)
    (inside : ∀ child ∈ fresh, child.level = id.level + 1 ∧ id.contains child = true) :
    after.Shaped topLevel maxLevel where
  isCell := shaped.isCell_of_grown grown isCell
  levels := shaped.levels_of_grown grown inside room
  parent := shaped.parent_of_grown grown inside isCell
  child := shaped.child_of_grown grown inside
  active _ := shaped.mem_active_of_grown_iff grown nonempty

end Shaped

namespace WellFormed

variable {topLevel maxLevel : Nat} {before after : Forest} {id other child : CellId}
  {fresh : List CellId} {cell : Cell}

/-- The fresh leaves lie too deep to be top cells. -/
theorem mem_tops_of_grown_iff (wellFormed : before.WellFormed topLevel maxLevel)
    (grown : Grown before after id fresh)
    (inside : ∀ child ∈ fresh, child.level = id.level + 1 ∧ id.contains child = true) :
    other ∈ after.tops ↔ other ∈ after.cells ∧ other.level = topLevel := by
  rw [grown.tops, wellFormed.tops]
  refine and_congr_left fun level => ⟨grown.mem_cells, fun member => ?_⟩
  obtain ⟨cell, present⟩ := mem_cells_iff.mp member
  rcases grown.origin present with ⟨rfl, _, earlier, _⟩ | ⟨isFresh, _⟩ | ⟨_, earlier⟩
  · exact mem_cells_iff.mpr ⟨_, earlier⟩
  · obtain ⟨old, _, oldPresent, _⟩ := grown.parent
    have bounds := wellFormed.levels oldPresent
    have deeper := (inside other isFresh).1
    omega
  · exact mem_cells_iff.mpr ⟨_, earlier⟩

/-- A forest stays well formed when it grows by children that lie where they should. -/
theorem grow (wellFormed : before.WellFormed topLevel maxLevel)
    (grown : Grown before after id fresh) (nonempty : fresh ≠ []) (room : id.level < maxLevel)
    (isCell : ∀ child ∈ fresh, child.IsCell)
    (inside : ∀ child ∈ fresh, child.level = id.level + 1 ∧ id.contains child = true)
    (sound : ∀ {other : CellId} {found : Cell}, after.cells[other]? = some found →
      other = id ∨ other ∈ fresh → found.Sound other) :
    after.WellFormed topLevel maxLevel :=
  (wellFormed.shaped.grow grown nonempty room isCell inside).wellFormed
    (fun _ => wellFormed.mem_tops_of_grown_iff grown inside) fun present => by
      rcases grown.origin present with ⟨same, _⟩ | ⟨member, _⟩ | ⟨_, earlier⟩
      · exact sound present (.inl same)
      · exact sound present (.inr member)
      · exact wellFormed.sound earlier

end WellFormed

end Forest

end LoadAtlas
