import LoadAtlas.Cell.Word
import LoadAtlas.Proofs.Cell.Ancestor
import Mathlib.Data.Nat.Bitwise

/-!
# Cells and their words

The arithmetic of cell identifiers is that of their words: on every word that names a cell, the
operations on words give the same answers, and none of them goes round.  An ancestor is found by
the same operations from every word.
-/

namespace LoadAtlas

namespace CellWord

variable {word : UInt64} {stem place : Nat}

theorem toNat_zero_sub (nonzero : word ≠ 0) :
    (0 - word).toNat = 2 ^ 64 - (word.toNat - 1 + 1) := by
  have positive : word.toNat ≠ 0 := fun zero => nonzero (UInt64.toNat_inj.mp zero)
  have small := word.toNat_lt
  rw [UInt64.toNat_sub, UInt64.toNat_zero]
  omega

/-! ## Words by the place of their lowest 1 -/

theorem testBit_odd_mul (stem place bit : Nat) : ((2 * stem + 1) * 2 ^ place).testBit bit =
    if bit < place + 1 then decide (place = bit) else stem.testBit (bit - (place + 1)) := by
  have split : (2 * stem + 1) * 2 ^ place = 2 ^ (place + 1) * stem + 2 ^ place := by ring
  rw [split, Nat.testBit_two_pow_mul_add _ (Nat.pow_lt_pow_right (by decide) (by omega)),
    Nat.testBit_two_pow]

theorem testBit_odd_mul_sub_one (stem place bit : Nat) :
    ((2 * stem + 1) * 2 ^ place - 1).testBit bit =
      if bit < place + 1 then decide (bit < place) else stem.testBit (bit - (place + 1)) := by
  have positive := Nat.two_pow_pos place
  have split : (2 * stem + 1) * 2 ^ place = 2 ^ (place + 1) * stem + 2 ^ place := by ring
  have less : 2 ^ place - 1 < 2 ^ (place + 1) := by
    rw [Nat.pow_succ]
    omega
  rw [split, Nat.add_sub_assoc positive, Nat.testBit_two_pow_mul_add _ less,
    Nat.testBit_two_pow_sub_one]

/-- A number other than 0 is an odd number and the zeros below its lowest 1. -/
theorem exists_odd_mul_lowZeros {bits number : Nat} (nonzero : number ≠ 0)
    (small : number < 2 ^ bits) :
    ∃ stem, number = (2 * stem + 1) * 2 ^ CellId.lowZeros bits number := by
  induction bits generalizing number with
  | zero =>
      rw [Nat.pow_zero] at small
      omega
  | succ bits induction =>
      rw [CellId.lowZeros]
      split
      · exact ⟨number / 2, by omega⟩
      · rw [Nat.pow_succ] at small
        obtain ⟨stem, half⟩ := @induction (number / 2) (by omega) (by omega)
        refine ⟨stem, ?_⟩
        rw [Nat.pow_succ, ← Nat.mul_assoc, ← half]
        omega

section

variable (odd : word.toNat = (2 * stem + 1) * 2 ^ place)

include odd

theorem two_pow_place_le : 2 ^ place ≤ word.toNat := by
  rw [odd]
  exact Nat.le_mul_of_pos_left _ (by omega)

theorem place_lt : place < 64 := by
  have factor := two_pow_place_le odd
  have small := word.toNat_lt
  exact (Nat.pow_lt_pow_iff_right (by decide)).mp (Nat.lt_of_le_of_lt factor small)

/-- Above the lowest 1 the bits of a word and of its negative are opposite, and below it they are
all 0. -/
theorem toNat_lowestOne : (lowestOne word).toNat = 2 ^ place := by
  have factor := two_pow_place_le odd
  have inside := place_lt odd
  have small := word.toNat_lt
  have nonzero : word ≠ 0 := by
    rintro rfl
    simp at factor
  rw [lowestOne, UInt64.toNat_and, toNat_zero_sub nonzero]
  refine Nat.eq_of_testBit_eq fun bit => ?_
  rw [Nat.testBit_and, Nat.testBit_two_pow_sub_succ (by omega), odd, testBit_odd_mul,
    testBit_odd_mul_sub_one, Nat.testBit_two_pow]
  by_cases low : bit < place + 1
  · by_cases here : place = bit
    · subst here
      simp [inside]
    · simp [here, low]
  · have above : place ≠ bit := by omega
    simp only [if_neg low, decide_eq_false above]
    cases stem.testBit (bit - (place + 1)) <;> simp

end

theorem testBit_evenPlaces (inside : place < 64) :
    evenPlaces.toNat.testBit place = decide (place % 2 = 0 ∧ place ≤ 60) := by
  have table : ∀ place : Fin 64, evenPlaces.toNat.testBit place.val =
      decide (place.val % 2 = 0 ∧ place.val ≤ 60) := by
    decide +kernel
  exact table ⟨place, inside⟩

theorem namesCell_iff (odd : word.toNat = (2 * stem + 1) * 2 ^ place) :
    namesCell word = true ↔ place % 2 = 0 ∧ place ≤ 60 := by
  rw [← decide_eq_true_iff (p := place % 2 = 0 ∧ place ≤ 60),
    ← testBit_evenPlaces (place_lt odd), namesCell, decide_eq_true_eq, ne_eq,
    ← UInt64.toNat_inj, UInt64.toNat_and, toNat_lowestOne odd, UInt64.toNat_zero,
    Nat.two_pow_and]
  cases evenPlaces.toNat.testBit place <;> simp

theorem toNat_levelOne (level : Nat) : (levelOne level).toNat = CellId.levelMark level := by
  have inside : 2 * (CellId.finestLevel - level) < 64 := by
    unfold CellId.finestLevel
    omega
  have small : 2 ^ (2 * (CellId.finestLevel - level)) < 2 ^ 64 :=
    Nat.pow_lt_pow_right (by decide) inside
  rw [levelOne, UInt64.toNat_shiftLeft, UInt64.toNat_ofNat', UInt64.toNat_one, Nat.shiftLeft_eq,
    CellId.levelMark_eq_two_pow,
    Nat.mod_eq_of_lt (show 2 * (CellId.finestLevel - level) < 2 ^ 64 by omega),
    Nat.mod_eq_of_lt inside, Nat.one_mul, Nat.mod_eq_of_lt small]

end CellWord

namespace CellId

open CellWord (lowestOne namesCell toNat_lowestOne)

variable {cell : CellId}

/-- From every word, the ancestor's word is found by clearing the bits below the level's mark and
setting the mark. -/
theorem code_ancestor (cell : CellId) (level : Nat) :
    (cell.ancestor level).code = CellWord.ancestor cell.code level := by
  have one := CellWord.toNat_levelOne level
  have nonzero : CellWord.levelOne level ≠ 0 := by
    intro zero
    rw [zero, UInt64.toNat_zero] at one
    exact absurd one (Nat.ne_of_lt (levelMark_pos level))
  obtain ⟨place, equal⟩ : ∃ place, 2 * (finestLevel - level) = place := ⟨_, rfl⟩
  have inside : place < 64 := by
    unfold finestLevel at equal
    omega
  have bound : 2 ^ place < 2 ^ 64 := Nat.pow_lt_pow_right (by decide) inside
  have positive := Nat.two_pow_pos place
  apply UInt64.toNat_inj.mp
  rw [code_ancestor_eq_odd_mul, CellWord.ancestor, UInt64.toNat_or, UInt64.toNat_and,
    CellWord.toNat_zero_sub nonzero, one, levelMark_eq_two_pow, equal]
  refine Nat.eq_of_testBit_eq fun bit => ?_
  rw [CellWord.testBit_odd_mul, Nat.testBit_or, Nat.testBit_and,
    Nat.testBit_two_pow_sub_succ (by omega), Nat.testBit_two_pow_sub_one, Nat.testBit_two_pow,
    ← Nat.pow_succ', Nat.testBit_div_two_pow]
  by_cases low : bit < place + 1
  · by_cases here : place = bit
    · simp [here]
    · have below : bit < place := by omega
      simp [below, here, low]
  · have above : place ≠ bit := by omega
    have notBelow : ¬ bit < place := by omega
    rw [if_neg low, Nat.sub_add_cancel (by omega), decide_eq_false above,
      decide_eq_false notBelow]
    by_cases held : bit < 64
    · simp [held]
    · have beyond : cell.code.toNat < 2 ^ bit := Nat.lt_of_lt_of_le cell.code.toNat_lt
        (Nat.pow_le_pow_right (by decide) (by omega))
      simp [Nat.testBit_lt_two_pow beyond]

/-- A word names a cell iff its lowest 1 stands at one of the even places. -/
theorem isCell_iff_namesCell : cell.IsCell ↔ namesCell cell.code = true := by
  constructor
  · intro isCell
    have odd := isCell.code_eq
    rw [levelMark_eq_two_pow] at odd
    rw [CellWord.namesCell_iff odd]
    unfold finestLevel
    omega
  · intro names
    have nonzero : cell.code.toNat ≠ 0 := by
      intro zero
      rw [show cell.code = 0 from UInt64.toNat_inj.mp zero] at names
      exact absurd names (by decide)
    obtain ⟨stem, odd⟩ := CellWord.exists_odd_mul_lowZeros nonzero cell.code.toNat_lt
    obtain ⟨even, bound⟩ := (CellWord.namesCell_iff odd).mp names
    obtain ⟨halves, zeros⟩ : ∃ halves, lowZeros 64 cell.code.toNat = 2 * halves :=
      ⟨lowZeros 64 cell.code.toNat / 2, by omega⟩
    have mark : 2 ^ (2 * halves) = levelMark (finestLevel - halves) := by
      rw [levelMark_eq_two_pow]
      congr 2
      unfold finestLevel
      omega
    rw [zeros, mark] at odd
    exact isCell_of_code (Nat.sub_le _ _) odd

/-! ## Cells -/

namespace IsCell

variable (isCell : cell.IsCell)

include isCell

theorem toNat_lowestOne : (lowestOne cell.code).toNat = levelMark cell.level := by
  have odd := isCell.code_eq
  rw [levelMark_eq_two_pow] at odd ⊢
  exact CellWord.toNat_lowestOne odd

theorem level_eq : cell.level = CellWord.level cell.code := by
  have log : (lowestOne cell.code).log2.toNat = 2 * (finestLevel - cell.level) := by
    change (lowestOne cell.code).toNat.log2 = _
    rw [isCell.toNat_lowestOne, levelMark_eq_two_pow, Nat.log2_two_pow]
  have bound := cell.level_le_finest
  rw [CellWord.level, log]
  omega

theorem levelMark_le : levelMark cell.level ≤ cell.code.toNat := by
  rw [isCell.code_eq]
  exact Nat.le_mul_of_pos_left _ (by omega)

/-- Behind the last word inside a cell there is room for one word more. -/
theorem code_add_levelMark_le : cell.code.toNat + levelMark cell.level ≤ 2 ^ 64 := by
  obtain ⟨blocks, split⟩ := two_mul_levelMark_dvd cell.level
  have small := cell.code.toNat_lt
  have stem : cell.code.toNat / (2 * levelMark cell.level) < blocks :=
    Nat.div_lt_of_lt_mul (split ▸ small)
  calc
    cell.code.toNat + levelMark cell.level =
        2 * levelMark cell.level * (cell.code.toNat / (2 * levelMark cell.level) + 1) := by
      conv_lhs => rw [isCell.code_eq]
      ring
    _ ≤ 2 * levelMark cell.level * blocks := Nat.mul_le_mul_left _ stem
    _ = 2 ^ 64 := split.symm

theorem contains_eq (inner : CellId) :
    cell.contains inner = CellWord.contains cell.code inner.code := by
  have one := isCell.toNat_lowestOne
  have positive := levelMark_pos cell.level
  have lower := isCell.levelMark_le
  have upper := isCell.code_add_levelMark_le
  have rest : (lowestOne cell.code - 1).toNat = levelMark cell.level - 1 := by
    rw [UInt64.toNat_sub, one, UInt64.toNat_one]
    omega
  have first : (cell.code - (lowestOne cell.code - 1)).toNat = cell.firstInside := by
    rw [UInt64.toNat_sub, rest, firstInside, isCell.mark_eq]
    omega
  have last : (cell.code + (lowestOne cell.code - 1)).toNat = cell.lastInside := by
    rw [UInt64.toNat_add, rest, lastInside, isCell.mark_eq]
    omega
  simp only [contains, CellWord.contains, UInt64.le_iff_toNat_le, first, last]

/-- The words of the children are the odd multiples of a quarter of the mark. -/
theorem map_code_children (room : cell.level < finestLevel) :
    cell.children.map code = CellWord.children cell.code := by
  have one := isCell.toNat_lowestOne
  have lower := isCell.levelMark_le
  have upper := isCell.code_add_levelMark_le
  obtain ⟨quarter, four⟩ : ∃ quarter, levelMark cell.level = 4 * quarter :=
    ⟨levelMark (cell.level + 1), by
      rw [levelMark, levelMark, ← Nat.pow_succ']
      congr 1
      omega⟩
  have half : (lowestOne cell.code >>> 1).toNat = 2 * quarter := by
    rw [UInt64.toNat_shiftRight, one, four]
    change (4 * quarter) >>> 1 = _
    rw [Nat.shiftRight_eq_div_pow]
    omega
  have least : (lowestOne cell.code >>> 2).toNat = quarter := by
    rw [UInt64.toNat_shiftRight, one, four]
    change (4 * quarter) >>> 2 = _
    rw [Nat.shiftRight_eq_div_pow]
    omega
  simp only [children, CellWord.children, List.map_cons, List.map_nil, List.cons.injEq, and_true,
    ← UInt64.toNat_inj, UInt64.toNat_add, UInt64.toNat_sub, UInt64.toNat_ofNat', one, half, least,
    isCell.mark_eq, four]
  omega

end IsCell

end CellId
end LoadAtlas
