import LoadAtlas.Cell.Id
import Mathlib.Tactic.Ring

/-!
# Ancestors of cells

The word of a cell is its stem, the mark of its level and zeros.  The ancestors of a cell are
therefore found by cutting its stem, ancestors of ancestors are ancestors, and one cell lies
inside another exactly if the other is its ancestor.  Everything that forests need to know
about the words of cells is proved here.
-/

namespace LoadAtlas

namespace CellId

/-- Words that name cells: the others have their lowest 1 at an odd place, or have none. -/
def IsCell (cell : CellId) : Prop :=
  cell.ancestor cell.level = cell

instance (cell : CellId) : Decidable cell.IsCell :=
  inferInstanceAs (Decidable (_ = _))

theorem level_le_finest (cell : CellId) : cell.level ≤ finestLevel := by
  simp [level]

theorem levelMark_pos (level : Nat) : 0 < levelMark level :=
  Nat.pow_pos (by decide)

theorem levelMark_eq_two_pow (level : Nat) :
    levelMark level = 2 ^ (2 * (finestLevel - level)) := by
  rw [levelMark, Nat.pow_mul]

theorem two_mul_levelMark_dvd (level : Nat) : 2 * levelMark level ∣ 2 ^ 64 := by
  have double : 2 * levelMark level = 2 ^ (2 * (finestLevel - level) + 1) := by
    rw [levelMark_eq_two_pow, Nat.pow_succ, Nat.mul_comm]
  rw [double]
  apply Nat.pow_dvd_pow
  have : finestLevel = 30 := rfl
  omega

/-- A coarser level has a mark that is a multiple of the finer level's mark. -/
theorem levelMark_eq_mul {coarse fine : Nat} (coarser : coarse ≤ fine) :
    levelMark coarse =
      levelMark fine * 4 ^ ((finestLevel - coarse) - (finestLevel - fine)) := by
  rw [levelMark, levelMark, ← Nat.pow_add]
  congr 1
  omega

/-- A bit word stays below its limit when a mark is set in its cleared lower part. -/
private theorem cut_add_mark_lt {word mark limit : Nat} (small : word < limit)
    (markPos : 0 < mark) (divides : 2 * mark ∣ limit) :
    word / (2 * mark) * (2 * mark) + mark < limit := by
  obtain ⟨blocks, rfl⟩ := divides
  have stem : word / (2 * mark) < blocks := Nat.div_lt_of_lt_mul small
  calc
    word / (2 * mark) * (2 * mark) + mark < (word / (2 * mark) + 1) * (2 * mark) := by
      rw [Nat.add_mul]
      omega
    _ ≤ blocks * (2 * mark) := Nat.mul_le_mul_right _ stem
    _ = 2 * mark * blocks := Nat.mul_comm _ _

theorem toNat_code_ancestor (cell : CellId) (level : Nat) :
    (cell.ancestor level).code.toNat =
      cell.code.toNat / (2 * levelMark level) * (2 * levelMark level) + levelMark level := by
  have small := cut_add_mark_lt cell.code.toNat_lt (levelMark_pos level)
    (two_mul_levelMark_dvd level)
  simp only [ancestor, UInt64.toNat_ofNat']
  exact Nat.mod_eq_of_lt small

theorem code_injective {first second : CellId} (equal : first.code.toNat = second.code.toNat) :
    first = second := by
  cases first
  cases second
  congr
  exact UInt64.toNat_inj.mp equal

/-- An odd number has no zeros below its lowest 1, and every doubling adds one. -/
theorem lowZeros_odd_mul_two_pow (stem zeros : Nat) {bits : Nat} (room : zeros < bits) :
    lowZeros bits ((2 * stem + 1) * 2 ^ zeros) = zeros := by
  induction zeros generalizing bits with
  | zero =>
      obtain ⟨bits, rfl⟩ : ∃ rest, bits = rest + 1 := ⟨bits - 1, by omega⟩
      simp [lowZeros]
  | succ zeros induction =>
      obtain ⟨bits, rfl⟩ : ∃ rest, bits = rest + 1 := ⟨bits - 1, by omega⟩
      have double : (2 * stem + 1) * 2 ^ (zeros + 1) = 2 * ((2 * stem + 1) * 2 ^ zeros) := by
        ring
      rw [double, lowZeros, if_neg (by omega), Nat.mul_div_cancel_left _ (by decide),
        induction (by omega)]

theorem level_of_code {cell : CellId} {stem level : Nat} (bounded : level ≤ finestLevel)
    (code : cell.code.toNat = (2 * stem + 1) * levelMark level) : cell.level = level := by
  have thirty : finestLevel = 30 := rfl
  rw [CellId.level, code, levelMark_eq_two_pow,
    lowZeros_odd_mul_two_pow stem _ (by omega)]
  omega

theorem code_ancestor_eq_odd_mul (cell : CellId) (level : Nat) :
    (cell.ancestor level).code.toNat =
      (2 * (cell.code.toNat / (2 * levelMark level)) + 1) * levelMark level := by
  rw [toNat_code_ancestor]
  ring

theorem level_ancestor (cell : CellId) {level : Nat} (bounded : level ≤ finestLevel) :
    (cell.ancestor level).level = level :=
  level_of_code bounded (code_ancestor_eq_odd_mul cell level)

theorem ancestor_ancestor (cell : CellId) {coarse fine : Nat} (coarser : coarse ≤ fine) :
    (cell.ancestor fine).ancestor coarse = cell.ancestor coarse := by
  apply code_injective
  simp only [toNat_code_ancestor, levelMark_eq_mul coarser]
  have stem : (cell.code.toNat / (2 * levelMark fine) * (2 * levelMark fine) + levelMark fine) /
      (2 * levelMark fine) = cell.code.toNat / (2 * levelMark fine) := by
    have positive := levelMark_pos fine
    rw [Nat.mul_comm _ (2 * levelMark fine), Nat.mul_add_div (by omega),
      Nat.div_eq_of_lt (show levelMark fine < 2 * levelMark fine by omega), Nat.add_zero]
  rw [← Nat.mul_assoc 2, ← Nat.div_div_eq_div_mul _ (2 * levelMark fine),
    ← Nat.div_div_eq_div_mul _ (2 * levelMark fine), stem]

theorem isCell_ancestor (cell : CellId) {level : Nat} (bounded : level ≤ finestLevel) :
    (cell.ancestor level).IsCell := by
  rw [IsCell, level_ancestor cell bounded, ancestor_ancestor cell (Nat.le_refl level)]

theorem stem_of_code {cell : CellId} {stem level : Nat}
    (code : cell.code.toNat = (2 * stem + 1) * levelMark level) :
    cell.code.toNat / (2 * levelMark level) = stem := by
  have positive := levelMark_pos level
  have split : (2 * stem + 1) * levelMark level =
      2 * levelMark level * stem + levelMark level := by
    ring
  rw [code, split, Nat.mul_add_div (by omega),
    Nat.div_eq_of_lt (show levelMark level < 2 * levelMark level by omega), Nat.add_zero]

theorem isCell_of_code {cell : CellId} {stem level : Nat} (bounded : level ≤ finestLevel)
    (code : cell.code.toNat = (2 * stem + 1) * levelMark level) : cell.IsCell := by
  apply code_injective
  rw [level_of_code bounded code, code_ancestor_eq_odd_mul, stem_of_code code, code]

/-- The word of a cell is its stem and its mark. -/
theorem IsCell.code_eq {cell : CellId} (isCell : cell.IsCell) :
    cell.code.toNat =
      (2 * (cell.code.toNat / (2 * levelMark cell.level)) + 1) * levelMark cell.level := by
  have code := code_ancestor_eq_odd_mul cell cell.level
  rwa [isCell] at code

theorem IsCell.mark_eq {cell : CellId} (isCell : cell.IsCell) :
    cell.mark = levelMark cell.level := by
  have thirty : finestLevel = 30 := rfl
  rw [mark, isCell.code_eq, levelMark_eq_two_pow, lowZeros_odd_mul_two_pow _ _ (by omega)]

/-- The open interval of twice a mark above an even multiple of it, by stem and remainder. -/
private theorem between_iff (word stem : Nat) {mark : Nat} (markPos : 0 < mark) :
    (2 * stem + 1) * mark - (mark - 1) ≤ word ∧ word ≤ (2 * stem + 1) * mark + (mark - 1) ↔
      word / (2 * mark) = stem ∧ word % (2 * mark) ≠ 0 := by
  have split := Nat.div_add_mod' word (2 * mark)
  have odd : (2 * stem + 1) * mark = stem * (2 * mark) + mark := by ring
  rw [odd]
  constructor
  · rintro ⟨above, below⟩
    have stemEq : word / (2 * mark) = stem := by
      rw [Nat.div_eq_iff (by omega)]
      omega
    rw [stemEq] at split
    exact ⟨stemEq, by omega⟩
  · rintro ⟨stemEq, nonzero⟩
    have remainder := Nat.mod_lt word (show 0 < 2 * mark by omega)
    rw [stemEq] at split
    omega

/-- A word of a level is no multiple of twice the mark of a coarser or equal level. -/
private theorem odd_mul_mod_ne_zero_iff (stem : Nat) {coarse fine : Nat}
    (coarseBound : coarse ≤ finestLevel) :
    (2 * stem + 1) * levelMark fine % (2 * levelMark coarse) ≠ 0 ↔ coarse ≤ fine := by
  constructor
  · intro nonzero
    by_contra finer
    apply nonzero
    have exponent : (finestLevel - fine) - (finestLevel - coarse) =
        ((finestLevel - fine) - (finestLevel - coarse) - 1) + 1 := by
      omega
    rw [levelMark_eq_mul (show fine ≤ coarse by omega), exponent, Nat.pow_succ]
    apply Nat.mod_eq_zero_of_dvd
    exact ⟨(2 * stem + 1) * 4 ^ ((finestLevel - fine) - (finestLevel - coarse) - 1) * 2, by ring⟩
  · intro coarser divides
    rw [levelMark_eq_mul coarser] at divides
    have reduced : 2 * 4 ^ ((finestLevel - coarse) - (finestLevel - fine)) ∣ 2 * stem + 1 := by
      apply Nat.dvd_of_mul_dvd_mul_right (levelMark_pos fine)
      refine dvd_trans (dvd_of_eq ?_) (Nat.dvd_of_mod_eq_zero divides)
      ring
    have even : 2 ∣ 2 * stem + 1 := dvd_trans (Nat.dvd_mul_right _ _) reduced
    omega

/-- A word has a cell for its ancestor iff it has the stem of that cell. -/
theorem IsCell.ancestor_eq_iff {outer : CellId} (outerCell : outer.IsCell) (inner : CellId) :
    inner.ancestor outer.level = outer ↔
      inner.code.toNat / (2 * levelMark outer.level) =
        outer.code.toNat / (2 * levelMark outer.level) := by
  constructor
  · intro equal
    have codes := congrArg (fun cell => cell.code.toNat) equal
    simp only [code_ancestor_eq_odd_mul] at codes
    rw [outerCell.code_eq] at codes
    have factors := Nat.eq_of_mul_eq_mul_right (levelMark_pos _) codes
    omega
  · intro equal
    apply code_injective
    rw [code_ancestor_eq_odd_mul, equal, ← outerCell.code_eq]

/-- A word lies inside a cell iff it has the stem of that cell and something below it. -/
theorem IsCell.contains_iff_stem {outer : CellId} (outerCell : outer.IsCell) (inner : CellId) :
    outer.contains inner = true ↔
      inner.code.toNat / (2 * levelMark outer.level) =
          outer.code.toNat / (2 * levelMark outer.level) ∧
        inner.code.toNat % (2 * levelMark outer.level) ≠ 0 := by
  have between := between_iff inner.code.toNat (outer.code.toNat / (2 * levelMark outer.level))
    (levelMark_pos outer.level)
  rw [← outerCell.code_eq] at between
  simp only [contains, Bool.and_eq_true, decide_eq_true_eq, firstInside, lastInside,
    outerCell.mark_eq, between]

/-- One cell lies inside another exactly if the other is its ancestor. -/
theorem contains_iff {outer inner : CellId} (outerCell : outer.IsCell)
    (innerCell : inner.IsCell) :
    outer.contains inner = true ↔
      outer.level ≤ inner.level ∧ inner.ancestor outer.level = outer := by
  have levels : inner.code.toNat % (2 * levelMark outer.level) ≠ 0 ↔
      outer.level ≤ inner.level := by
    conv_lhs => rw [innerCell.code_eq]
    exact odd_mul_mod_ne_zero_iff _ outer.level_le_finest
  rw [outerCell.contains_iff_stem, outerCell.ancestor_eq_iff, levels]
  exact and_comm

end CellId

end LoadAtlas
