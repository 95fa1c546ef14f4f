import LoadAtlas.Proofs.Bucket.Fraction

/-!
# Stretched coordinates

A coordinate is stretched to the doubles from 1 to 2 by a product and a sum.  The factor is not
exactly the inverse of the coordinate's range, and both operations round; yet what comes out is
never outside of the doubles from 1 to 2, and it is near to where it should be.

The double 2 itself comes out for the two greatest latitudes.
-/

namespace LoadAtlas

open Double

namespace Bucket

/-- What the factor of a coordinate exceeds the inverse of its range by, as a part of it. -/
def excess : ℚ :=
  11 / 2 ^ 58

/-- The coordinate as a part of its range, multiplied and shifted with a rounding each time. -/
structure Stretched (share shrunk stretched : ℚ) : Prop where
  shrinks : Nearest (share * (1 + excess)) shrunk
  shifts : Nearest (shrunk + 3 / 2) stretched

/-- The factor is a little too great, but the ends of the range do not escape. -/
theorem abs_shrunk_le {share shrunk : ℚ} (shrinks : Nearest (share * (1 + excess)) shrunk)
    (inside : |share| ≤ 1 / 2) : |shrunk| ≤ 1 / 2 := by
  have factor : 0 < 1 + excess := by
    rw [excess]
    norm_num
  have little : |share * (1 + excess)| < 2 ^ (-1 : ℤ) + 2 ^ (-1 - 53 : ℤ) := by
    rw [abs_mul, abs_of_pos factor]
    refine (mul_le_mul_of_nonneg_right inside factor.le).trans_lt ?_
    rw [excess]
    norm_num
  exact (shrinks.abs_le_two_zpow (by norm_num) little).trans_eq (by norm_num)

namespace Stretched

variable {share shrunk stretched : ℚ} (doubles : Stretched share shrunk stretched)
  (inside : |share| ≤ 1 / 2)

include doubles inside

theorem bounds : 1 ≤ stretched ∧ stretched ≤ 2 := by
  obtain ⟨above, below⟩ := abs_le.mp (abs_shrunk_le doubles.shrinks inside)
  have one : Fits ((2 : ℚ) ^ (0 : ℤ)) := fits_two_zpow (by norm_num)
  have two : Fits ((2 : ℚ) ^ (1 : ℤ)) := fits_two_zpow (by norm_num)
  rw [zpow_zero] at one
  rw [zpow_one] at two
  exact ⟨doubles.shifts.le_of_le one (by linarith), doubles.shifts.le_of_ge two (by linarith)⟩

/-- The errors of both roundings and of the factor are small together. -/
theorem close : |stretched - (share + 3 / 2)| ≤ 1 / 2 ^ 51 := by
  obtain ⟨above, below⟩ := abs_le.mp (abs_shrunk_le doubles.shrinks inside)
  obtain ⟨west, east⟩ := abs_le.mp inside
  have shrinkError : |shrunk - share * (1 + excess)| ≤ 2 ^ (0 - 54 : ℤ) := by
    apply doubles.shrinks.abs_sub_le (by norm_num)
    rw [excess, abs_lt]
    constructor <;> norm_num <;> linarith
  have shiftError : |stretched - (shrunk + 3 / 2)| ≤ 2 ^ (2 - 54 : ℤ) := by
    apply doubles.shifts.abs_sub_le (by norm_num)
    rw [abs_lt]
    constructor <;> norm_num <;> linarith
  rw [abs_le] at shrinkError shiftError ⊢
  rw [excess] at shrinkError
  norm_num at shrinkError shiftError ⊢
  constructor <;> linarith

end Stretched

theorem range_pos {bound : ℕ} (positive : 0 < bound) : (0 : ℚ) < 2 * bound :=
  mul_pos two_pos (Nat.cast_pos.mpr positive)

theorem abs_share_le {degrees : ℚ} {bound : ℕ} (positive : 0 < bound)
    (inside : |degrees| ≤ bound) : |degrees / (2 * bound)| ≤ 1 / 2 := by
  rw [abs_div, abs_of_pos (range_pos positive), div_le_iff₀ (range_pos positive)]
  linarith

/-- The range of a coordinate is stretched to the doubles from 1 to 2. -/
theorem exists_stretched {coordinate scale : Float} {degrees : ℚ} {bound : ℕ}
    (positive : 0 < bound) (inside : |degrees| ≤ bound) (denotes : Denotes coordinate degrees)
    (factor : Denotes scale ((1 + excess) / (2 * bound))) :
    ∃ shrunk stretched, Stretched (degrees / (2 * bound)) shrunk stretched ∧
      Denotes (coordinate * scale + 1.5) stretched := by
  have great : (2 : ℚ) ≤ 2 ^ (1023 : ℤ) :=
    (zpow_one 2).symm.le.trans (two_zpow_le_iff.mpr (by norm_num))
  have same : degrees * ((1 + excess) / (2 * bound)) = degrees / (2 * bound) * (1 + excess) := by
    ring
  have share := abs_share_le positive inside
  have middle : Denotes 1.5 (3 / 2) := by decide +kernel
  obtain ⟨west, east⟩ := abs_le.mp share
  obtain ⟨shrunk, product, shrinks⟩ := denotes.exists_mul factor <| by
    refine le_trans ?_ great
    rw [same, excess, abs_le]
    constructor <;> norm_num <;> linarith
  rw [same] at shrinks
  obtain ⟨stretched, sum, shifts⟩ := product.exists_add middle <| by
    obtain ⟨above, below⟩ := abs_le.mp (abs_shrunk_le shrinks share)
    exact (abs_le.mpr ⟨by linarith, by linarith⟩).trans great
  exact ⟨shrunk, stretched, ⟨shrinks, shifts⟩, sum⟩

/-! ## The end of the range -/

namespace Stretched

variable {share shrunk stretched : ℚ} (doubles : Stretched share shrunk stretched)

include doubles

/-- Two steps of a latitude below the pole, and the end is not reached. -/
theorem lt_two (inside : |share| ≤ 1 / 2) (far : share ≤ 1 / 2 - 1 / (180 * 2 ^ 45)) :
    stretched < 2 := by
  obtain ⟨west, east⟩ := abs_le.mp inside
  obtain ⟨above, below⟩ := abs_le.mp (abs_shrunk_le doubles.shrinks inside)
  have short : shrunk < 1 / 2 - 1 / 2 ^ 53 := by
    rcases le_or_gt share 0 with negative | positive
    · have least : shrunk ≤ 0 := doubles.shrinks.le_of_ge fits_zero <|
        mul_nonpos_of_nonpos_of_nonneg negative (by rw [excess]; norm_num)
      refine least.trans_lt ?_
      norm_num
    · have error : |shrunk - share * (1 + excess)| ≤ 2 ^ (-1 - 54 : ℤ) := by
        apply doubles.shrinks.abs_sub_le (by norm_num)
        rw [excess, abs_lt]
        constructor <;> norm_num <;> linarith
      have upper := (abs_le.mp error).2
      rw [excess] at upper
      norm_num at upper ⊢
      linarith
  have error : |stretched - (shrunk + 3 / 2)| ≤ 2 ^ (1 - 54 : ℤ) := by
    apply doubles.shifts.abs_sub_le (by norm_num)
    rw [abs_lt]
    constructor <;> norm_num <;> linarith
  have upper := (abs_le.mp error).2
  norm_num at upper short
  linarith

/-- One step of a latitude below the pole, and the end is reached. -/
theorem eq_two (inside : |share| ≤ 1 / 2) (near : 1 / 2 - 1 / (180 * 2 ^ 46) ≤ share) :
    stretched = 2 := by
  refine (doubles.bounds inside).2.antisymm ?_
  have reached : 1 / 2 - 1 / 2 ^ 53 < shrunk := by
    rcases le_or_gt (2 ^ (-1 : ℤ)) (share * (1 + excess)) with whole | less
    · have least := doubles.shrinks.le_of_le (fits_two_zpow (by norm_num)) whole
      norm_num at least ⊢
      linarith
    · have error : |shrunk - share * (1 + excess)| ≤ 2 ^ (-1 - 54 : ℤ) := by
        apply doubles.shrinks.abs_sub_le (by norm_num)
        rw [excess] at less ⊢
        rw [abs_lt]
        refine ⟨?_, less⟩
        norm_num
        linarith
      have lower := (abs_le.mp error).1
      rw [excess] at lower
      norm_num at lower ⊢
      linarith
  have short : 2 ^ (1 : ℤ) - 2 ^ (1 - 54 : ℤ) < shrunk + 3 / 2 := by
    norm_num
    linarith
  have power := doubles.shifts.two_zpow_le (by norm_num) short
  rwa [zpow_one] at power

end Stretched

/-- Between the greatest latitudes but two and but one there is no double. -/
theorem le_of_fits {degrees : ℚ} (fits : Fits degrees) (less : degrees < 90 - 1 / 2 ^ 46) :
    degrees ≤ 90 - 1 / 2 ^ 45 := by
  rcases fits.onGrid_or_abs_le (-46) with onGrid | ⟨-, small⟩
  · refine onGrid.le_of_sub_lt ⟨90 * 2 ^ 46 - 2, by norm_num⟩ ?_
    norm_num at less ⊢
    linarith
  · have below := (abs_le.mp small).2
    norm_num at below ⊢
    linarith

/-- The end of the range is reached by the two greatest latitudes. -/
theorem Stretched.eq_two_iff {degrees shrunk stretched : ℚ}
    (doubles : Stretched (degrees / 180) shrunk stretched) (fits : Fits degrees)
    (inside : |degrees| ≤ 90) : stretched = 2 ↔ 90 - 1 / 2 ^ 46 ≤ degrees := by
  obtain ⟨south, north⟩ := abs_le.mp inside
  have share : |degrees / 180| ≤ 1 / 2 := abs_le.mpr ⟨by linarith, by linarith⟩
  rcases lt_or_ge degrees (90 - 1 / 2 ^ 46) with less | reached
  · have far := doubles.lt_two share <| by
      have gap := le_of_fits fits less
      norm_num at gap ⊢
      linarith
    exact iff_of_false far.ne (not_le.mpr less)
  · refine iff_of_true (doubles.eq_two share ?_) reached
    norm_num at reached ⊢
    linarith

end Bucket

end LoadAtlas
