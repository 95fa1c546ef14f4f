import LoadAtlas.Proofs.Double.Denotes

/-!
# Rounding

The exact result of an operation on doubles is a mantissa with an exponent, where the mantissa is
followed by two bits: whether what is cut off is at least a half, and whether there is more.  These
tell enough to round to the nearest mantissa of 53 bits.

Rounding may carry over into another bit, and then the mantissa is a power of two and is shifted
once more without a loss.
-/

namespace LoadAtlas

namespace Double

open Float.Model (Format UnpackedFloat totalExponent)
open Float.Model.UnpackedFloat

/-! ## What is cut off -/

/-- What the round bit and the sticky bit say about what is cut off of a mantissa. -/
def Cut : (roundBit stickyBit : Bool) → ℚ → Prop
  | false, false, rest => rest = 0
  | false, true, rest => 0 < rest ∧ 2 * rest < 1
  | true, false, rest => 2 * rest = 1
  | true, true, rest => 1 < 2 * rest ∧ rest < 1

/-- What a mantissa and its two bits say about an amount. -/
def Holds (extended : ExtendedMantissa) (amount : ℚ) : Prop :=
  Cut extended.roundBit extended.stickyBit (amount - extended.mantissa)

/-- Cutting off one more bit. -/
theorem Cut.half {roundBit stickyBit odd : Bool} {rest half : ℚ}
    (cut : Cut roundBit stickyBit rest) (same : 2 * half = rest + if odd then 1 else 0) :
    Cut odd (roundBit || stickyBit) half := by
  cases roundBit <;> cases stickyBit <;> cases odd <;> grind [Cut]

namespace Holds

variable {extended : ExtendedMantissa} {amount : ℚ}

theorem bounds (holds : Holds extended amount) :
    (extended.mantissa : ℚ) ≤ amount ∧ amount < extended.mantissa + 1 := by
  obtain ⟨mantissa, roundBit, stickyBit⟩ := extended
  cases roundBit <;> cases stickyBit <;> grind [Holds, Cut]

theorem shiftRightOne (holds : Holds extended amount) :
    Holds extended.shiftRightOne (amount / 2) := by
  have halves : (extended.mantissa : ℚ) =
      2 * (extended.mantissa / 2 : ℕ) + (extended.mantissa % 2 : ℕ) := by
    exact_mod_cast (Nat.div_add_mod extended.mantissa 2).symm
  apply Cut.half holds
  rcases Nat.mod_two_eq_zero_or_one extended.mantissa with even | odd
  · rw [halves, even]
    simp [ExtendedMantissa.shiftRightOne, even]
    ring
  · rw [halves, odd]
    simp [ExtendedMantissa.shiftRightOne, odd]
    ring

theorem shiftRight (holds : Holds extended amount) (places : Nat) :
    Holds (extended >>> places) (amount / 2 ^ places) := by
  induction places with
  | zero =>
      rw [pow_zero, div_one]
      exact holds
  | succ places induction =>
      rw [pow_succ, ← div_div]
      exact induction.shiftRightOne

/-- Rounding errs by a half at most. -/
theorem roundedMantissa (holds : Holds extended amount) :
    extended.mantissa ≤ extended.roundedMantissa ∧
      extended.roundedMantissa ≤ extended.mantissa + 1 ∧
        2 * |(extended.roundedMantissa : ℚ) - amount| ≤ 1 := by
  obtain ⟨mantissa, roundBit, stickyBit⟩ := extended
  cases roundBit <;> cases stickyBit <;>
    simp only [Holds, Cut, ExtendedMantissa.roundedMantissa, ExtendedMantissa.accuracy,
      Accuracy.roundToNearestEven] at holds ⊢
  · refine ⟨le_rfl, by omega, ?_⟩
    grind
  · refine ⟨le_rfl, by omega, ?_⟩
    grind
  · refine ⟨by omega, by omega, ?_⟩
    rcases Nat.mod_two_eq_zero_or_one mantissa with even | odd
    · rw [even]
      grind
    · rw [odd]
      grind
  · refine ⟨by omega, by omega, ?_⟩
    grind

end Holds

/-! ## Exponents -/

theorem targetExponent_eq (total : ℤ) :
    Format.binary64.targetExponent total = max (total - 53) (-1074) :=
  rfl

theorem mantissa_ofMantissaAndAccuracy (mantissa : Nat) (accuracy : Accuracy) :
    (ExtendedMantissa.ofMantissaAndAccuracy mantissa accuracy).mantissa = mantissa := by
  rcases accuracy with _ | relation
  · rfl
  · cases relation <;> rfl

theorem two_zpow_log2_le {mantissa : Nat} (positive : 0 < mantissa) (exponent : ℤ) :
    2 ^ (mantissa.log2 + exponent) ≤ (mantissa : ℚ) * 2 ^ exponent := by
  rw [two_zpow_add, zpow_natCast]
  refine mul_le_mul_of_nonneg_right ?_ (two_zpow_pos exponent).le
  exact_mod_cast Nat.log2_self_le positive.ne'

theorem succ_mul_le_two_zpow_log2 (mantissa : Nat) (exponent : ℤ) :
    ((mantissa : ℚ) + 1) * 2 ^ exponent ≤ 2 ^ (mantissa.log2 + exponent + 1) := by
  rw [add_right_comm, two_zpow_add, ← Nat.cast_succ, ← Nat.cast_succ, zpow_natCast]
  refine mul_le_mul_of_nonneg_right ?_ (two_zpow_pos exponent).le
  exact_mod_cast Nat.lt_log2_self

section

variable {mantissa : Nat} {exponent : ℤ} {amount : ℚ}

/-- The exponent that is aimed at is the one of the grid around the amount. -/
theorem targetExponent_eq_grid_of_pos (positive : 0 < mantissa) (below : (mantissa : ℚ) ≤ amount)
    (above : amount < mantissa + 1) : Format.binary64.targetExponent
      (totalExponent mantissa exponent) = grid (amount * 2 ^ exponent) := by
  have step := two_zpow_pos exponent
  have magnitude : |amount * 2 ^ exponent| = amount * 2 ^ exponent :=
    abs_of_nonneg (mul_nonneg ((Nat.cast_nonneg mantissa).trans below) step.le)
  have least : 2 ^ (mantissa.log2 + exponent) ≤ |amount * 2 ^ exponent| := by
    rw [magnitude]
    exact (two_zpow_log2_le positive exponent).trans (mul_le_mul_of_nonneg_right below step.le)
  have greatest : |amount * 2 ^ exponent| < 2 ^ (mantissa.log2 + exponent + 1) := by
    rw [magnitude]
    exact (mul_lt_mul_of_pos_right above step).trans_le
      (succ_mul_le_two_zpow_log2 mantissa exponent)
  rw [grid_eq_of_bounds least greatest, targetExponent_eq, totalExponent]
  congr 1
  ring

/-- Less than one step does as well if the step is small. -/
theorem targetExponent_eq_grid (positive : 0 < amount) (below : (mantissa : ℚ) ≤ amount)
    (above : amount < mantissa + 1) (fine : exponent ≤ grid (amount * 2 ^ exponent)) :
    Format.binary64.targetExponent (totalExponent mantissa exponent) =
      grid (amount * 2 ^ exponent) := by
  rcases Nat.eq_zero_or_pos mantissa with rfl | nonzero
  · have step := two_zpow_pos exponent
    have magnitude : |amount * 2 ^ exponent| = amount * 2 ^ exponent :=
      abs_of_pos (mul_pos positive step)
    have small : |amount * 2 ^ exponent| < 2 ^ exponent := by
      rw [magnitude]
      exact mul_lt_of_lt_one_left step (by simpa using above)
    have level : Int.log 2 |amount * 2 ^ exponent| < exponent :=
      (Int.lt_zpow_iff_log_lt (by norm_num) (by rw [magnitude]; positivity)).mp
        (by exact_mod_cast small)
    have digits : ((Nat.log2 0 : ℕ) : ℤ) = 0 := rfl
    rw [grid] at fine ⊢
    rw [targetExponent_eq, totalExponent]
    omega
  · exact targetExponent_eq_grid_of_pos nonzero below above

end

/-! ## The nearest double -/

theorem Nearest.signed {exact rounded : ℚ} (nearest : Nearest exact rounded) (sign : Sign) :
    Nearest (signed sign exact) (signed sign rounded) := by
  cases sign
  · exact nearest.neg
  · exact nearest

/-- An unpacked double is the nearest one to a rational. -/
def Rounds (unpacked : UnpackedFloat) (exact : ℚ) : Prop :=
  ∃ rounded, Stands unpacked rounded ∧ Nearest exact rounded

theorem Stands.rounds {unpacked : UnpackedFloat} {rational : ℚ}
    (stands : Stands unpacked rational) : Rounds unpacked rational :=
  ⟨rational, stands, stands.fits.nearest⟩

/-- The second shift settles a rounded mantissa and changes nothing else. -/
theorem shiftToTargetExponent_exact {mantissa : Nat} {exponent : ℤ} (short : mantissa ≤ 2 ^ 53)
    (least : -1074 ≤ exponent) (full : 2 ^ 52 ≤ mantissa ∨ exponent = -1074) :
    ∃ settledMantissa settledExponent, Settled settledMantissa settledExponent ∧
      (settledMantissa : ℚ) * 2 ^ settledExponent = mantissa * 2 ^ exponent ∧
        shiftToTargetExponent Format.binary64 mantissa exponent .exact =
          (⟨settledMantissa, false, false⟩, settledExponent) := by
  rcases short.lt_or_eq with less | rfl
  · have digits : mantissa.log2 < 53 := by
      rcases Nat.eq_zero_or_pos mantissa with rfl | positive
      · decide
      · exact (Nat.log2_lt positive.ne').mpr less
    have still : (Format.binary64.targetExponent (totalExponent mantissa exponent) -
        exponent).toNat = 0 := by
      rw [targetExponent_eq, totalExponent]
      omega
    refine ⟨mantissa, exponent, ⟨less, least, full⟩, rfl, ?_⟩
    rw [shiftToTargetExponent, shiftToExponent, still, Nat.cast_zero, add_zero]
    rfl
  · have once : (Format.binary64.targetExponent (totalExponent (2 ^ 53) exponent) -
        exponent).toNat = 1 := by
      rw [targetExponent_eq, totalExponent, Nat.log2_two_pow]
      omega
    refine ⟨2 ^ 52, exponent + 1, ⟨by norm_num, by omega, .inl le_rfl⟩, ?_, ?_⟩
    · rw [add_comm, two_zpow_add]
      push_cast
      ring
    · rw [shiftToTargetExponent, shiftToExponent, once]
      rfl

section

variable {mantissa : Nat} {exponent : ℤ} {accuracy : Accuracy} {amount : ℚ}
  (holds : Holds (.ofMantissaAndAccuracy mantissa accuracy) amount) (positive : 0 < amount)
  (fine : exponent ≤ grid (amount * 2 ^ exponent))

include holds positive fine

/-- The first shift cuts an amount of small steps down to the grid around it. -/
theorem shiftToTargetExponent_fine :
    ∃ extended kept, Holds extended kept ∧
      kept * 2 ^ grid (amount * 2 ^ exponent) = amount * 2 ^ exponent ∧
        shiftToTargetExponent Format.binary64 mantissa exponent accuracy =
          (extended, grid (amount * 2 ^ exponent)) := by
  have bounds := holds.bounds
  rw [mantissa_ofMantissaAndAccuracy] at bounds
  have target := targetExponent_eq_grid positive bounds.1 bounds.2 fine
  obtain ⟨places, split⟩ := Int.le.dest fine
  refine ⟨ExtendedMantissa.ofMantissaAndAccuracy mantissa accuracy >>> places,
    amount / 2 ^ places, holds.shiftRight places, ?_, ?_⟩
  · rw [← split, two_zpow_add, zpow_natCast]
    field_simp
  · rw [shiftToTargetExponent, target, shiftToExponent, ← split, add_sub_cancel_left,
      Int.toNat_natCast]

end

/-- Rounding on the grid around a positive rational. -/
theorem Holds.nearest {extended : ExtendedMantissa} {kept exact : ℚ} (holds : Holds extended kept)
    (positive : 0 < exact) (scaled : kept * 2 ^ grid exact = exact) :
    extended.roundedMantissa ≤ 2 ^ 53 ∧
      (2 ^ 52 ≤ extended.roundedMantissa ∨ grid exact = -1074) ∧
        Nearest exact (extended.roundedMantissa * 2 ^ grid exact) := by
  have step := two_zpow_pos (grid exact)
  obtain ⟨below, above⟩ := holds.bounds
  obtain ⟨atLeast, atMost, close⟩ := holds.roundedMantissa
  refine ⟨?_, ?_, ⟨extended.roundedMantissa, by norm_cast⟩, ?_⟩
  · have room := abs_lt_two_zpow_grid exact
    rw [abs_of_pos positive, add_comm, two_zpow_add] at room
    have few : kept < 2 ^ (53 : ℤ) := lt_of_mul_lt_mul_right (scaled.trans_lt room) step.le
    have short : extended.mantissa < 2 ^ 53 := by exact_mod_cast below.trans_lt few
    omega
  · rcases eq_or_lt_of_le (le_grid exact) with least | normal
    · exact .inr least.symm
    · have reached := two_zpow_grid_le normal positive.ne'
      rw [abs_of_pos positive, add_comm, two_zpow_add] at reached
      have many : 2 ^ (52 : ℤ) ≤ kept :=
        le_of_mul_le_mul_right (reached.trans_eq scaled.symm) step
      have full : 2 ^ 52 < extended.mantissa + 1 := by exact_mod_cast many.trans_lt above
      exact .inl (by omega)
  · calc 2 * |(extended.roundedMantissa : ℚ) * 2 ^ grid exact - exact|
        = 2 * |(extended.roundedMantissa : ℚ) * 2 ^ grid exact - kept * 2 ^ grid exact| := by
          rw [scaled]
      _ = 2 * |(extended.roundedMantissa : ℚ) - kept| * 2 ^ grid exact := by
          rw [← sub_mul, abs_mul, abs_of_pos step, mul_assoc]
      _ ≤ 2 ^ grid exact := mul_le_of_le_one_left step.le close

/-- A positive amount of small steps is rounded to the nearest double. -/
theorem rounds_roundWithAccuracy (sign : Sign) {mantissa : Nat} {exponent : ℤ}
    {accuracy : Accuracy} {amount : ℚ}
    (holds : Holds (.ofMantissaAndAccuracy mantissa accuracy) amount) (positive : 0 < amount)
    (fine : exponent ≤ grid (amount * 2 ^ exponent)) :
    Rounds (roundWithAccuracy Format.binary64 sign mantissa exponent accuracy)
      (signed sign (amount * 2 ^ exponent)) := by
  obtain ⟨extended, kept, shifted, scaled, first⟩ :=
    shiftToTargetExponent_fine holds positive fine
  obtain ⟨short, full, nearest⟩ :=
    shifted.nearest (mul_pos positive (two_zpow_pos exponent)) scaled
  obtain ⟨settledMantissa, settledExponent, settled, same, second⟩ :=
    shiftToTargetExponent_exact short (le_grid _) full
  refine ⟨signed sign (settledMantissa * 2 ^ settledExponent), ?_, same ▸ nearest.signed sign⟩
  rw [roundWithAccuracy, first]
  simp only [second]
  split
  · next nothing =>
      have zero : signed sign (settledMantissa * 2 ^ settledExponent) = 0 := by
        cases sign <;> simp [signed, nothing]
      rw [zero]
      exact .zero sign
  · exact .finite sign _ settled

end Double

end LoadAtlas
