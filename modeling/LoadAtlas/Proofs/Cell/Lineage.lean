import LoadAtlas.Proofs.Cell.Shape
import LoadAtlas.Proofs.Cell.Word
import Mathlib.Data.List.Nodup

/-!
# The lineage of a location

On every level there is one cell around a location, and each of these cells is a child of the one
before.  The children of a cell are the cells of the next level inside it, and cells of one level
have no word in common; so a location falls into a cell iff its own cell of the next level lies
inside that cell.
-/

namespace LoadAtlas

namespace CellId

variable {cell parent child other : CellId}

/-! ## Children -/

theorem levelMark_eq_four_mul (room : parent.level < finestLevel) :
    levelMark parent.level = 4 * levelMark (parent.level + 1) := by
  rw [levelMark, levelMark, ← Nat.pow_succ']
  congr 1
  omega

namespace IsCell

variable (isCell : parent.IsCell) (room : parent.level < finestLevel)

include isCell room

/-- The stems of the children are four in a row. -/
theorem map_toNat_children : parent.children.map (fun child => child.code.toNat) =
    (List.range 4).map fun quarter =>
      (2 * (4 * (parent.code.toNat / (2 * levelMark parent.level)) + quarter) + 1) *
        levelMark (parent.level + 1) := by
  have four := levelMark_eq_four_mul room
  have code := isCell.code_eq
  have last := isCell.code_add_levelMark_le
  have positive := levelMark_pos (parent.level + 1)
  simp only [children, isCell.mark_eq]
  generalize parent.code.toNat / (2 * levelMark parent.level) = stem at *
  rw [four] at code last ⊢
  generalize levelMark (parent.level + 1) = mark at *
  have split : parent.code.toNat = 8 * (stem * mark) + 4 * mark := by
    rw [code]
    ring
  have quarters : ∀ quarter, (2 * (4 * stem + quarter) + 1) * mark =
      8 * (stem * mark) + 2 * (quarter * mark) + mark := fun quarter => by ring
  simp only [List.range, List.range.loop, List.map_cons, List.map_nil, List.cons.injEq, and_true,
    UInt64.toNat_ofNat', quarters, Nat.mul_div_cancel_left mark (show 0 < 4 by decide)]
  omega

theorem mem_children_iff_code : child ∈ parent.children ↔ ∃ quarter < 4, child.code.toNat =
    (2 * (4 * (parent.code.toNat / (2 * levelMark parent.level)) + quarter) + 1) *
      levelMark (parent.level + 1) := by
  have injective : Function.Injective fun cell : CellId => cell.code.toNat :=
    fun _ _ equal => code_injective equal
  rw [← List.mem_map_of_injective injective, isCell.map_toNat_children room, List.mem_map]
  simp only [List.mem_range, eq_comm]

theorem nodup_children : parent.children.Nodup := by
  have distinct : (parent.children.map fun child => child.code.toNat).Nodup := by
    rw [isCell.map_toNat_children room]
    refine List.nodup_range.map fun first second equal => ?_
    have factors := Nat.eq_of_mul_eq_mul_right (levelMark_pos _) equal
    omega
  exact distinct.of_map

/-- The children of a cell are the cells of the next level inside it. -/
theorem mem_children_iff : child ∈ parent.children ↔
    child.IsCell ∧ child.level = parent.level + 1 ∧ parent.contains child = true := by
  have double : 2 * levelMark parent.level = 2 * levelMark (parent.level + 1) * 4 := by
    rw [levelMark_eq_four_mul room]
    ring
  rw [isCell.mem_children_iff_code room]
  constructor
  · rintro ⟨quarter, small, code⟩
    have childCell := isCell_of_code room code
    have level := level_of_code room code
    refine ⟨childCell, level, (contains_iff isCell childCell).mpr ⟨by omega, ?_⟩⟩
    rw [isCell.ancestor_eq_iff]
    conv_lhs => rw [double, ← Nat.div_div_eq_div_mul, stem_of_code code]
    omega
  · rintro ⟨childCell, level, inside⟩
    have stem := (isCell.ancestor_eq_iff child).mp
      (ancestor_eq_of_contains isCell childCell inside)
    rw [double, ← Nat.div_div_eq_div_mul, ← double] at stem
    have code := childCell.code_eq
    rw [level] at code
    refine ⟨child.code.toNat / (2 * levelMark (parent.level + 1)) % 4, Nat.mod_lt _ (by decide),
      code.trans ?_⟩
    congr 2
    omega

/-- A cell contains the cell of the next level at a location iff the location falls into it. -/
theorem contains_childAt_iff (location : Location) :
    parent.contains (location.childAt parent) = true ↔ location.FallsInto parent := by
  have childCell := (location.fallsInto_childAt room).isCell
  have level := location.level_childAt room
  rw [contains_iff isCell childCell, level, Location.childAt,
    location.ancestor_cellAt (Nat.le_succ _), Location.FallsInto]
  exact and_iff_right (Nat.le_succ _)

end IsCell

/-- Two cells of one level that have a word in common are the same. -/
theorem IsCell.eq_of_contains_common {inner : CellId} (isCell : cell.IsCell)
    (otherCell : other.IsCell) (level : other.level = cell.level)
    (first : cell.contains inner = true) (second : other.contains inner = true) :
    cell = other := by
  rw [← (isCell.ancestor_eq_iff inner).mpr ((isCell.contains_iff_stem inner).mp first).1, ← level]
  exact (otherCell.ancestor_eq_iff inner).mpr ((otherCell.contains_iff_stem inner).mp second).1

/-- A cell among its children, its neighbours and the locations of the globe.  What is said of the
cell holds of its word, too. -/
structure Placed (cell : CellId) : Prop where
  level : cell.level = CellWord.level cell.code
  ancestor : ∀ coarse : Nat, (cell.ancestor coarse).code = CellWord.ancestor cell.code coarse
  contains : ∀ inner : CellId, cell.contains inner = CellWord.contains cell.code inner.code
  /-- Above the finest level the cell has four children, the cells of the next level in it. -/
  children : cell.level < finestLevel →
    cell.children.map code = CellWord.children cell.code ∧ cell.children.Nodup ∧
      ∀ child : CellId, child ∈ cell.children ↔ CellWord.namesCell child.code = true ∧
        child.level = cell.level + 1 ∧ cell.contains child = true
  /-- A location has a cell of the next level, inside the cell iff the location falls into it. -/
  childAt : cell.level < finestLevel → ∀ location : Location, ∃ child : CellId,
    location.childAt? cell = some child ∧
      (cell.contains child = true ↔ location.cellAt? cell.level = some cell)
  /-- Another cell of the same level has no word in common with the cell. -/
  apart : ∀ other inner : CellId, CellWord.namesCell other.code = true →
    other.level = cell.level → other ≠ cell →
      ¬ (cell.contains inner = true ∧ other.contains inner = true)

end CellId

namespace Location

theorem cellAt?_eq (location : Location) {level : Nat} (bounded : level ≤ CellId.finestLevel) :
    location.cellAt? level = some (location.cellAt level) :=
  if_pos bounded

theorem childAt?_eq (location : Location) {parent : CellId} (isCell : parent.IsCell)
    (room : parent.level < CellId.finestLevel) :
    location.childAt? parent = some (location.childAt parent) := by
  rw [childAt?, CellId.level?, if_neg isCell.code_ne_zero, Option.bind_some,
    location.cellAt?_eq room, childAt]

/-- The word of the finest cell of a location ends with its mark. -/
theorem exists_code_finestCell (location : Location) : ∃ stem, location.finestCell.code.toNat =
    (2 * stem + 1) * CellId.levelMark CellId.finestLevel := by
  have mark : CellId.levelMark CellId.finestLevel = 1 := rfl
  simp only [finestCell, CellId.ofGrid, UInt64.toNat_ofNat', mark, Nat.mul_one]
  generalize Fin.val _ = face
  generalize Curve.index _ _ _ _ _ = place
  exact ⟨(face * 2 ^ 61 + 2 * place + 1) % 2 ^ 64 / 2, by omega⟩

/-- The cells of a location, on all levels from the faces down. -/
structure Lineage (location : Location) : Prop where
  finest : CellWord.namesCell location.finestCell.code = true ∧
    location.finestCell.level = CellId.finestLevel
  cellAt : ∀ level ≤ CellId.finestLevel, location.cellAt? level = some (location.cellAt level) ∧
    CellWord.namesCell (location.cellAt level).code = true ∧
      (location.cellAt level).level = level
  nested : ∀ coarse fine : Nat, coarse ≤ fine → fine ≤ CellId.finestLevel →
    (location.cellAt coarse).contains (location.cellAt fine) = true ∧
      (location.cellAt fine).ancestor coarse = location.cellAt coarse
  child : ∀ level < CellId.finestLevel,
    location.childAt? (location.cellAt level) = some (location.cellAt (level + 1)) ∧
      location.cellAt (level + 1) ∈ (location.cellAt level).children

theorem contains_cellAt (location : Location) {coarse fine : Nat} (coarser : coarse ≤ fine)
    (bounded : fine ≤ CellId.finestLevel) :
    (location.cellAt coarse).contains (location.cellAt fine) = true := by
  have outer := location.fallsInto_cellAt (Nat.le_trans coarser bounded)
  refine outer.contains (location.fallsInto_cellAt bounded) ?_
  rwa [location.level_cellAt bounded, location.level_cellAt (Nat.le_trans coarser bounded)]

theorem cellAt_succ_mem_children (location : Location) {level : Nat}
    (room : level < CellId.finestLevel) :
    location.cellAt (level + 1) ∈ (location.cellAt level).children := by
  have isCell := location.isCell_cellAt (Nat.le_of_lt room)
  have here := location.level_cellAt (Nat.le_of_lt room)
  rw [isCell.mem_children_iff (here.symm ▸ room), here]
  exact ⟨location.isCell_cellAt room, location.level_cellAt room,
    location.contains_cellAt (Nat.le_succ level) room⟩

theorem lineage (location : Location) : location.Lineage := by
  obtain ⟨stem, code⟩ := location.exists_code_finestCell
  have bounded := Nat.le_refl CellId.finestLevel
  refine ⟨⟨?_, CellId.level_of_code bounded code⟩, fun level bounded => ⟨?_, ?_, ?_⟩,
    fun coarse fine coarser bounded => ⟨?_, ?_⟩, fun level room => ⟨?_, ?_⟩⟩
  · exact CellId.isCell_iff_namesCell.mp (CellId.isCell_of_code bounded code)
  · exact location.cellAt?_eq bounded
  · exact CellId.isCell_iff_namesCell.mp (location.isCell_cellAt bounded)
  · exact location.level_cellAt bounded
  · exact location.contains_cellAt coarser bounded
  · exact location.ancestor_cellAt coarser
  · have isCell := location.isCell_cellAt (Nat.le_of_lt room)
    have here := location.level_cellAt (Nat.le_of_lt room)
    rw [location.childAt?_eq isCell (here.symm ▸ room), childAt, here]
  · exact location.cellAt_succ_mem_children room

end Location

namespace CellId

/-- Every word whose lowest 1 stands at one of the even places names a cell, and every location
has its cells, one inside the other. -/
theorem placed_of_namesCell {cell : CellId} (names : CellWord.namesCell cell.code = true)
    (location : Location) : cell.Placed ∧ location.Lineage := by
  have isCell := isCell_iff_namesCell.mpr names
  refine ⟨⟨isCell.level_eq, cell.code_ancestor, isCell.contains_eq, fun room => ⟨?_, ?_, ?_⟩,
    fun room location => ⟨_, location.childAt?_eq isCell room, ?_⟩, ?_⟩, location.lineage⟩
  · exact isCell.map_code_children room
  · exact isCell.nodup_children room
  · intro child
    rw [← isCell_iff_namesCell]
    exact isCell.mem_children_iff room
  · rw [isCell.contains_childAt_iff room, location.cellAt?_eq cell.level_le_finest,
      Option.some.injEq]
    rfl
  · rintro other inner otherNames level different ⟨inside, insideOther⟩
    have otherCell := isCell_iff_namesCell.mpr otherNames
    exact different (isCell.eq_of_contains_common otherCell level inside insideOther).symm

/-- The last of the six faces and a location on another one. -/
theorem placed_last_face : CellWord.namesCell 0xB000000000000000 = true ∧
    (Placed ⟨0xB000000000000000⟩ ∧ Location.Lineage ⟨2.35, 48.85⟩) :=
  ⟨by decide, @placed_of_namesCell ⟨0xB000000000000000⟩ (by decide) ⟨2.35, 48.85⟩⟩

end CellId
end LoadAtlas
