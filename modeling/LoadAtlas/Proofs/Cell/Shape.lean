import LoadAtlas.Cell.Shape
import LoadAtlas.Proofs.Cell.Nesting

/-!
# Cells that have a shape

The cells of locations lie on one of the six faces, and a cell lies on the face of every cell
around it.  On a face every cell has a centre and four corners.
-/

namespace LoadAtlas

theorem Curve.index_lt (first second bits : Nat) (orientation : Orientation) (above : Nat) :
    index first second bits orientation above < 4 ^ bits * (above + 1) := by
  induction bits generalizing orientation above with
  | zero => simp [index]
  | succ bits induction =>
      rw [index]
      refine Nat.lt_of_lt_of_le (induction _ _) ?_
      rw [Nat.pow_succ, Nat.mul_assoc]
      exact Nat.mul_le_mul_left _ (by omega)

namespace CellId

variable {cell outer inner : CellId}

/-- The word has a level and names one of the six faces. -/
def OnFace (cell : CellId) : Prop :=
  cell.code ≠ 0 ∧ cell.faceNumber < 6

theorem faceNumber_ancestor (cell : CellId) (level : Nat) :
    (cell.ancestor level).faceNumber = cell.faceNumber := by
  have positive := levelMark_pos level
  obtain ⟨blocks, split⟩ : 2 * levelMark level ∣ 2 ^ 61 := by
    rw [levelMark_eq_two_pow, ← Nat.pow_succ']
    exact Nat.pow_dvd_pow 2 (by unfold finestLevel; omega)
  have stem : (cell.code.toNat / (2 * levelMark level) * (2 * levelMark level) +
      levelMark level) / (2 * levelMark level) = cell.code.toNat / (2 * levelMark level) := by
    rw [Nat.mul_comm, Nat.mul_add_div (by omega),
      Nat.div_eq_of_lt (show levelMark level < 2 * levelMark level by omega), Nat.add_zero]
  rw [faceNumber, faceNumber, toNat_code_ancestor, split,
    ← Nat.div_div_eq_div_mul _ (2 * levelMark level),
    ← Nat.div_div_eq_div_mul _ (2 * levelMark level), stem]

theorem faceNumber_ofGrid (face : Face) (column row : Nat) :
    (ofGrid face column row).faceNumber = face.val := by
  have place := Curve.index_lt column row finestLevel (Curve.faceOrientation face.val) 0
  have known := face.isLt
  have sizes : 4 ^ finestLevel * (0 + 1) = 2 ^ 60 := by decide
  rw [sizes] at place
  simp only [faceNumber, ofGrid, UInt64.toNat_ofNat']
  omega

theorem IsCell.code_ne_zero (isCell : cell.IsCell) : cell.code ≠ 0 := by
  intro zero
  have code := isCell.code_eq
  have positive := levelMark_pos cell.level
  rw [zero] at code
  simp at code
  omega

theorem onFace_of_contains (outerCell : outer.IsCell) (innerCell : inner.IsCell)
    (inside : outer.contains inner = true) (onFace : outer.OnFace) : inner.OnFace := by
  refine ⟨innerCell.code_ne_zero, ?_⟩
  rw [← faceNumber_ancestor inner outer.level, ancestor_eq_of_contains outerCell innerCell inside]
  exact onFace.2

namespace OnFace

variable (onFace : cell.OnFace)

include onFace

end OnFace

end CellId

theorem Location.FallsInto.onFace {location : Location} {cell : CellId}
    (falls : location.FallsInto cell) : cell.OnFace := by
  refine ⟨falls.isCell.code_ne_zero, ?_⟩
  rw [← falls, Location.cellAt, CellId.faceNumber_ancestor, Location.finestCell,
    CellId.faceNumber_ofGrid]
  exact Fin.isLt _

end LoadAtlas
