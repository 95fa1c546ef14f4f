import LoadAtlas.Basic
import Mathlib.Data.Int.Log
import Mathlib.Data.Rat.Floor
import Mathlib.Tactic.Linarith
import Mathlib.Tactic.Positivity
import Mathlib.Tactic.Ring

/-!
# Rounding to doubles

Around a rational the doubles form a grid: 53 bits of the rational are kept, but none below
`2 ^ -1074`.  A rational is rounded to a point of its grid no more than half a step away.  Which
of two equally near points is taken does not matter for anything here.

A rational that fits is kept as it is, and rounding never jumps over a rational that fits.
-/

namespace LoadAtlas

namespace Double

/-- A whole number of steps of the given binary exponent. -/
def OnGrid (exponent : ℤ) (point : ℚ) : Prop :=
  ∃ steps : ℤ, point = steps * 2 ^ exponent

/-- The binary exponent of the step from one double to the next around a rational. -/
def grid (exact : ℚ) : ℤ :=
  max (Int.log 2 |exact| - 52) (-1074)

/-- A rational is rounded to a double, as long as its magnitude is not too great for any. -/
structure Nearest (exact rounded : ℚ) : Prop where
  onGrid : OnGrid (grid exact) rounded
  close : 2 * |rounded - exact| ≤ 2 ^ grid exact

/-- A rational of at most 53 bits, none of them too small. -/
def Fits (exact : ℚ) : Prop :=
  ∃ steps exponent : ℤ, |steps| ≤ 2 ^ 53 ∧ -1074 ≤ exponent ∧ exact = steps * 2 ^ exponent

variable {exact rounded point : ℚ} {exponent : ℤ}

theorem two_zpow_pos (exponent : ℤ) : (0 : ℚ) < 2 ^ exponent :=
  zpow_pos (by norm_num) exponent

theorem two_zpow_add (first second : ℤ) :
    (2 : ℚ) ^ (first + second) = 2 ^ first * 2 ^ second :=
  zpow_add₀ (by norm_num) first second

theorem two_zpow_le_iff {first second : ℤ} :
    (2 : ℚ) ^ first ≤ 2 ^ second ↔ first ≤ second :=
  zpow_le_zpow_iff_right₀ (by norm_num)

theorem two_zpow_lt_iff {first second : ℤ} :
    (2 : ℚ) ^ first < 2 ^ second ↔ first < second :=
  zpow_lt_zpow_iff_right₀ (by norm_num)

/-! ## Grids -/

theorem OnGrid.of_le (onGrid : OnGrid exponent point) {finer : ℤ} (le : finer ≤ exponent) :
    OnGrid finer point := by
  obtain ⟨steps, rfl⟩ := onGrid
  refine ⟨steps * 2 ^ (exponent - finer).toNat, ?_⟩
  have split : (2 : ℚ) ^ exponent = 2 ^ (exponent - finer).toNat * 2 ^ finer := by
    rw [← zpow_natCast, Int.toNat_of_nonneg (by omega), ← two_zpow_add, sub_add_cancel]
  rw [split]
  push_cast
  ring

theorem OnGrid.neg (onGrid : OnGrid exponent point) : OnGrid exponent (-point) := by
  obtain ⟨steps, rfl⟩ := onGrid
  exact ⟨-steps, by push_cast; ring⟩

theorem onGrid_two_zpow {finer : ℤ} (le : finer ≤ exponent) : OnGrid finer (2 ^ exponent) :=
  OnGrid.of_le ⟨1, by norm_num⟩ le

/-- A point of a grid is not below another one if it is less than a step below it. -/
theorem OnGrid.le_of_sub_lt {other : ℚ} (onGrid : OnGrid exponent point)
    (otherOnGrid : OnGrid exponent other) (near : point - other < 2 ^ exponent) :
    point ≤ other := by
  obtain ⟨steps, rfl⟩ := onGrid
  obtain ⟨others, rfl⟩ := otherOnGrid
  have positive := two_zpow_pos exponent
  have fewer : ((steps - others : ℤ) : ℚ) < 1 := by
    rw [← mul_lt_mul_iff_left₀ positive]
    push_cast
    linarith
  have ordered : steps ≤ others := by
    have whole : steps - others < 1 := by exact_mod_cast fewer
    omega
  exact mul_le_mul_of_nonneg_right (by exact_mod_cast ordered) positive.le

theorem le_grid (exact : ℚ) : -1074 ≤ grid exact :=
  le_max_right _ _

theorem grid_neg (exact : ℚ) : grid (-exact) = grid exact := by
  rw [grid, grid, abs_neg]

theorem grid_eq_of_bounds {exponent : ℤ} (least : 2 ^ exponent ≤ |exact|)
    (greatest : |exact| < 2 ^ (exponent + 1)) : grid exact = max (exponent - 52) (-1074) := by
  have positive : 0 < |exact| := (two_zpow_pos exponent).trans_le least
  have lower : exponent ≤ Int.log 2 |exact| :=
    (Int.zpow_le_iff_le_log (by norm_num) positive).mp (by exact_mod_cast least)
  have upper : Int.log 2 |exact| < exponent + 1 :=
    (Int.lt_zpow_iff_log_lt (by norm_num) positive).mp (by exact_mod_cast greatest)
  rw [grid, show Int.log 2 |exact| = exponent by omega]

theorem two_zpow_grid_le (normal : -1074 < grid exact) (nonzero : exact ≠ 0) :
    2 ^ (grid exact + 52) ≤ |exact| := by
  have level : grid exact + 52 = Int.log 2 |exact| := by
    rw [grid] at normal ⊢
    omega
  rw [level]
  exact_mod_cast Int.zpow_log_le_self (b := 2) (by norm_num) (abs_pos.mpr nonzero)

theorem abs_lt_two_zpow_grid (exact : ℚ) : |exact| < 2 ^ (grid exact + 53) := by
  rcases eq_or_ne exact 0 with rfl | nonzero
  · rw [abs_zero]
    exact two_zpow_pos _
  have level : Int.log 2 |exact| < grid exact + 53 := by
    rw [grid]
    omega
  exact_mod_cast (Int.lt_zpow_iff_log_lt (by norm_num) (abs_pos.mpr nonzero)).mpr level

theorem le_grid_of_le {exponent : ℤ} (great : 2 ^ (exponent + 52) ≤ |exact|) :
    exponent ≤ grid exact := by
  have positive : 0 < |exact| := (two_zpow_pos _).trans_le great
  have level : exponent + 52 ≤ Int.log 2 |exact| :=
    (Int.zpow_le_iff_le_log (by norm_num) positive).mp (by exact_mod_cast great)
  rw [grid]
  omega

theorem grid_le_of_lt {exponent : ℤ} (room : -1021 ≤ exponent) (nonzero : exact ≠ 0)
    (small : |exact| < 2 ^ exponent) : grid exact ≤ exponent - 53 := by
  have level : Int.log 2 |exact| < exponent :=
    (Int.lt_zpow_iff_log_lt (by norm_num) (abs_pos.mpr nonzero)).mp (by exact_mod_cast small)
  rw [grid]
  omega

/-! ## Rationals that fit -/

theorem Fits.neg (fits : Fits exact) : Fits (-exact) := by
  obtain ⟨steps, exponent, few, normal, rfl⟩ := fits
  exact ⟨-steps, exponent, by rwa [abs_neg], normal, by push_cast; ring⟩

theorem fits_zero : Fits 0 :=
  ⟨0, 0, by norm_num, by norm_num, by norm_num⟩

theorem fits_two_zpow (normal : -1074 ≤ exponent) : Fits (2 ^ exponent) :=
  ⟨1, exponent, by norm_num, normal, by norm_num⟩

theorem fits_div_two_pow {steps : ℤ} {places : ℕ} (few : |steps| ≤ 2 ^ 53)
    (shallow : places ≤ 1074) : Fits (steps / 2 ^ places) :=
  ⟨steps, -places, few, by omega, by rw [zpow_neg, zpow_natCast, div_eq_mul_inv]⟩

/-- A rational that fits is on a grid, or no greater than what the grid is made for. -/
theorem Fits.onGrid_or_abs_le (fits : Fits point) (exponent : ℤ) :
    OnGrid exponent point ∨ -1074 < exponent ∧ |point| ≤ 2 ^ (exponent + 52) := by
  obtain ⟨steps, own, few, normal, rfl⟩ := fits
  rcases le_or_gt exponent own with finer | coarser
  · exact .inl (OnGrid.of_le ⟨steps, rfl⟩ finer)
  · refine .inr ⟨by omega, ?_⟩
    have fewSteps : |(steps : ℚ)| ≤ 2 ^ (53 : ℤ) := by exact_mod_cast few
    calc |(steps : ℚ) * 2 ^ own| = |(steps : ℚ)| * 2 ^ own := by
          rw [abs_mul, abs_of_pos (two_zpow_pos own)]
      _ ≤ 2 ^ (53 : ℤ) * 2 ^ own := mul_le_mul_of_nonneg_right fewSteps (two_zpow_pos own).le
      _ = 2 ^ (53 + own) := (two_zpow_add 53 own).symm
      _ ≤ 2 ^ (exponent + 52) := two_zpow_le_iff.mpr (by omega)

/-! ## Rounding -/

theorem Nearest.neg (nearest : Nearest exact rounded) : Nearest (-exact) (-rounded) where
  onGrid := by
    rw [grid_neg]
    exact nearest.onGrid.neg
  close := by
    rw [grid_neg, neg_sub_neg, abs_sub_comm]
    exact nearest.close

private theorem Nearest.le_of_onGrid (nearest : Nearest exact rounded)
    (onGrid : OnGrid (grid exact) point) (le : point ≤ exact) : point ≤ rounded := by
  refine onGrid.le_of_sub_lt nearest.onGrid ?_
  have close := nearest.close
  have away := neg_le_abs (rounded - exact)
  have step := two_zpow_pos (grid exact)
  linarith

/-- Rounding does not jump down over a rational that fits. -/
theorem Nearest.le_of_le (nearest : Nearest exact rounded) (fits : Fits point)
    (le : point ≤ exact) : point ≤ rounded := by
  rcases eq_or_ne exact 0 with rfl | nonzero
  · exact le.trans (nearest.le_of_onGrid ⟨0, by norm_num⟩ le_rfl)
  rcases fits.onGrid_or_abs_le (grid exact) with onGrid | ⟨normal, small⟩
  · exact nearest.le_of_onGrid onGrid le
  -- The point is within the powers of two that bound the grid, and those are on the grid.
  have power : OnGrid (grid exact) (2 ^ (grid exact + 52)) := onGrid_two_zpow (by omega)
  have reached := two_zpow_grid_le normal nonzero
  obtain ⟨above, below⟩ := abs_le.mp small
  rcases le_total 0 exact with positive | negative
  · rw [abs_of_nonneg positive] at reached
    exact below.trans (nearest.le_of_onGrid power reached)
  · rw [abs_of_nonpos negative] at reached
    have same : point = -2 ^ (grid exact + 52) := by linarith
    exact nearest.le_of_onGrid (same ▸ power.neg) le

/-- Rounding does not jump up over a rational that fits. -/
theorem Nearest.le_of_ge (nearest : Nearest exact rounded) (fits : Fits point)
    (le : exact ≤ point) : rounded ≤ point :=
  neg_le_neg_iff.mp (nearest.neg.le_of_le fits.neg (neg_le_neg le))

theorem Nearest.abs_le_of_abs_le (nearest : Nearest exact rounded) (fits : Fits point)
    (le : |exact| ≤ point) : |rounded| ≤ point := by
  obtain ⟨above, below⟩ := abs_le.mp le
  exact abs_le.mpr ⟨nearest.le_of_le fits.neg above, nearest.le_of_ge fits below⟩

private theorem Nearest.le_two_zpow (nearest : Nearest exact rounded) {exponent : ℤ}
    (normal : -1022 ≤ exponent) (small : exact < 2 ^ exponent + 2 ^ (exponent - 53)) :
    rounded ≤ 2 ^ exponent := by
  rcases le_total exact (2 ^ exponent) with below | above
  · exact nearest.le_of_ge (fits_two_zpow (by omega)) below
  have power := two_zpow_pos exponent
  have half : (2 : ℚ) ^ (exponent - 52) = 2 * 2 ^ (exponent - 53) := by
    rw [show exponent - 52 = 1 + (exponent - 53) by ring, two_zpow_add, zpow_one]
  have tiny : (2 : ℚ) ^ (exponent - 53) ≤ 2 ^ exponent := two_zpow_le_iff.mpr (by omega)
  have next : (2 : ℚ) ^ (exponent + 1) = 2 ^ exponent * 2 := by rw [two_zpow_add, zpow_one]
  have level : grid exact = exponent - 52 := by
    have magnitude : |exact| = exact := abs_of_pos (power.trans_le above)
    have least : 2 ^ exponent ≤ |exact| := by rwa [magnitude]
    have greatest : |exact| < 2 ^ (exponent + 1) := by
      rw [magnitude]
      linarith
    rw [grid_eq_of_bounds least greatest]
    omega
  have onGrid := nearest.onGrid
  have close := nearest.close
  rw [level] at onGrid close
  refine onGrid.le_of_sub_lt (onGrid_two_zpow (by omega)) ?_
  have away := le_abs_self (rounded - exact)
  linarith

/-- Rounding takes a rational back to a power of two that it exceeds by little. -/
theorem Nearest.abs_le_two_zpow (nearest : Nearest exact rounded) {exponent : ℤ}
    (normal : -1022 ≤ exponent) (small : |exact| < 2 ^ exponent + 2 ^ (exponent - 53)) :
    |rounded| ≤ 2 ^ exponent := by
  obtain ⟨above, below⟩ := abs_lt.mp small
  refine abs_le.mpr ⟨?_, nearest.le_two_zpow normal below⟩
  have opposite := nearest.neg.le_two_zpow normal (by linarith)
  linarith

/-- Rounding takes a rational up to a power of two that it falls short of by little. -/
theorem Nearest.two_zpow_le (nearest : Nearest exact rounded) {exponent : ℤ}
    (normal : -1021 ≤ exponent) (great : 2 ^ exponent - 2 ^ (exponent - 54) < exact) :
    2 ^ exponent ≤ rounded := by
  rcases le_or_gt (2 ^ exponent) exact with above | below
  · exact nearest.le_of_le (fits_two_zpow (by omega)) above
  have double : (2 : ℚ) ^ (exponent - 53) = 2 * 2 ^ (exponent - 54) := by
    rw [show exponent - 53 = 1 + (exponent - 54) by ring, two_zpow_add, zpow_one]
  have tiny : (2 : ℚ) ^ (exponent - 54) ≤ 2 ^ (exponent - 1) := two_zpow_le_iff.mpr (by omega)
  have power : (2 : ℚ) ^ exponent = 2 * 2 ^ (exponent - 1) := by
    rw [show exponent = 1 + (exponent - 1) by ring, two_zpow_add, zpow_one, add_sub_cancel_left]
  have positive := two_zpow_pos (exponent - 1)
  have level : grid exact = exponent - 53 := by
    have magnitude : |exact| = exact := abs_of_pos (by linarith)
    have least : 2 ^ (exponent - 1) ≤ |exact| := by
      rw [magnitude]
      linarith
    have greatest : |exact| < 2 ^ (exponent - 1 + 1) := by rwa [magnitude, sub_add_cancel]
    rw [grid_eq_of_bounds least greatest]
    omega
  have onGrid := nearest.onGrid
  have close := nearest.close
  rw [level] at onGrid close
  refine (onGrid_two_zpow (by omega)).le_of_sub_lt onGrid ?_
  have away := neg_le_abs (rounded - exact)
  linarith

/-- A rational that fits is not changed by rounding. -/
theorem Nearest.eq_of_fits (nearest : Nearest exact rounded) (fits : Fits exact) :
    rounded = exact :=
  le_antisymm (nearest.le_of_ge fits le_rfl) (nearest.le_of_le fits le_rfl)

/-- A rounding errs by half a step at most. -/
theorem Nearest.abs_sub_le (nearest : Nearest exact rounded) {exponent : ℤ}
    (room : -1021 ≤ exponent) (small : |exact| < 2 ^ exponent) :
    |rounded - exact| ≤ 2 ^ (exponent - 54) := by
  rcases eq_or_ne exact 0 with rfl | nonzero
  · rw [nearest.eq_of_fits fits_zero, sub_zero, abs_zero]
    exact (two_zpow_pos _).le
  have step : (2 : ℚ) ^ grid exact ≤ 2 ^ (exponent - 53) :=
    two_zpow_le_iff.mpr (grid_le_of_lt room nonzero small)
  have half : (2 : ℚ) ^ (exponent - 53) = 2 * 2 ^ (exponent - 54) := by
    rw [show exponent - 53 = 1 + (exponent - 54) by ring, two_zpow_add, zpow_one]
  have close := nearest.close
  linarith

theorem Fits.nearest (fits : Fits exact) : Nearest exact exact := by
  refine ⟨?_, by rw [sub_self, abs_zero, mul_zero]; exact (two_zpow_pos _).le⟩
  rcases eq_or_ne exact 0 with rfl | nonzero
  · exact ⟨0, by norm_num⟩
  rcases fits.onGrid_or_abs_le (grid exact) with onGrid | ⟨normal, small⟩
  · exact onGrid
  obtain ⟨steps, power⟩ : OnGrid (grid exact) (2 ^ (grid exact + 52)) :=
    onGrid_two_zpow (by omega)
  have size := (small.antisymm (two_zpow_grid_le normal nonzero)).trans power
  rcases eq_or_eq_neg_of_abs_eq size with same | opposite
  · exact ⟨steps, same⟩
  · exact ⟨-steps, opposite.trans (by push_cast; ring)⟩

end Double

end LoadAtlas
