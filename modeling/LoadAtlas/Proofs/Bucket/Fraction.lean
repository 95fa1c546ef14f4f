import LoadAtlas.Proofs.Bucket.Globe
import LoadAtlas.Proofs.Double.Arithmetic

/-!
# Fractions of doubles

The leading bits of the fraction of a double from 1 to 2 tell in which part of the range from 1 to
2 it is.  They are read off the word of the double; in the other direction they are put into a
word, and what is computed from them is the middle of their part of a range.
-/

namespace LoadAtlas

open Double Float.Model

namespace Bucket

/-! ## Fractions of doubles -/

/-- The double 2 has the fraction of the double 1. -/
theorem fractionBits_eq {value : Float} {stretched : ℚ} (denotes : Denotes value stretched)
    (least : 1 ≤ stretched) (greatest : stretched ≤ 2) :
    fractionBits value = ⌊(stretched - 1) * 2 ^ 32⌋₊ % 2 ^ 32 := by
  obtain ⟨mantissa, exponent, settled, magnitude, same⟩ :=
    denotes.exists_settled (one_pos.trans_le least)
  have bits : fractionBits value = mantissa % 2 ^ 52 / 2 ^ 20 := by
    rw [same, fraction, fractionBits]
    change value.toBits.toNat / _ % _ = value.toBits.toNat % _ / _
    omega
  have short := settled.short
  have above : -53 < exponent := by
    have room := settled.mul_lt.trans_le' (least.trans_eq magnitude)
    rw [← zpow_zero (2 : ℚ), two_zpow_lt_iff] at room
    omega
  have below : exponent ≤ -51 := by
    have room := (settled.le_mul (by omega)).trans
      (magnitude.symm.trans_le (greatest.trans_eq (zpow_one 2).symm))
    rw [two_zpow_le_iff] at room
    omega
  have full := settled.full.resolve_right (by omega)
  obtain rfl | rfl : exponent = -52 ∨ exponent = -51 := by omega
  · have scaled : (stretched - 1) * 2 ^ 32 = (mantissa - 2 ^ 52 : ℕ) / (2 ^ 20 : ℕ) := by
      rw [magnitude, Nat.cast_sub full]
      norm_num
      ring
    rw [bits, scaled, Nat.floor_div_eq_div]
    omega
  · have half : (mantissa : ℚ) ≤ (2 ^ 52 : ℕ) := by
      rw [magnitude] at greatest
      norm_num at greatest
      push_cast
      linarith
    have least : mantissa = 2 ^ 52 := full.antisymm' (by exact_mod_cast half)
    have scaled : (stretched - 1) * 2 ^ 32 = (2 ^ 32 : ℕ) := by
      rw [magnitude, least]
      norm_num
    rw [bits, scaled, Nat.floor_natCast, least, Nat.mod_self, Nat.mod_self, Nat.zero_div]

/-- A word with the exponent of 1 and some fraction. -/
theorem denotes_ofFractionBits (bits : Nat) :
    Denotes (ofFractionBits bits) ((2 ^ 32 + (bits % 2 ^ 32 : ℕ) : ℤ) / 2 ^ 32) := by
  have bounded : bits % 2 ^ 32 < 2 ^ 32 := Nat.mod_lt _ (by norm_num)
  rw [ofFractionBits]
  generalize bits % 2 ^ 32 = leading at *
  have size : UInt64.size = 2 ^ 64 := rfl
  have number : (UInt64.ofNat (1023 * 2 ^ 52 + leading * 2 ^ 20)).toBitVec.toNat =
      1023 * 2 ^ 52 + leading * 2 ^ 20 := UInt64.toNat_ofNat_of_lt (by omega)
  generalize UInt64.ofNat (1023 * 2 ^ 52 + leading * 2 ^ 20) = word at *
  have least : fraction word.toBitVec = leading * 2 ^ 20 := by
    rw [fraction, number]
    omega
  have exponent : field word.toBitVec = 1023 := by
    rw [field, number]
    omega
  have positive : word.toBitVec.toNat < 2 ^ 63 := by omega
  have denotes := denotes_ofBits positive (by omega) (by omega)
  rw [least, exponent] at denotes
  have same : ((2 ^ 52 + leading * 2 ^ 20 : ℕ) : ℚ) * 2 ^ (((1023 : ℕ) : ℤ) - 1075) =
      (2 ^ 32 + leading : ℤ) / 2 ^ 32 := by
    norm_num
    ring
  rwa [same] at denotes

/-! ## Middles -/

theorem denotes_two_pow : ∀ known ≤ 32, Denotes (Float.ofNat (2 ^ known)) (2 ^ known) := by
  decide +kernel

/-- The bits that are known and the rest of them. -/
theorem two_pow_split {known : Nat} (shallow : known ≤ 32) :
    (2 : ℚ) ^ 32 = 2 ^ known * 2 ^ (32 - known) := by
  rw [← pow_add, Nat.add_sub_cancel' shallow]

section Middle

variable {reach : Float} {bound : ℕ} (denotes : Denotes reach bound) (short : bound ≤ 180)

include denotes short

theorem denotes_twice : Denotes (2.0 * reach) ((2 * bound : ℤ) : ℚ) := by
  have two : Denotes 2.0 ((2 : ℤ) : ℚ) := by decide +kernel
  have whole : Denotes reach ((bound : ℤ) / 2 ^ 0) := by simpa using denotes
  have twice := two.mul_steps (by norm_num) whole (by omega) (by omega)
  rwa [pow_zero, div_one] at twice

/-- No step of the computation is rounded. -/
theorem denotes_leastWithBits (bits : Nat) : Denotes (leastWithBits reach bits)
    ((2 * (bound * (bits % 2 ^ 32 : ℕ)) - bound * 2 ^ 32 : ℤ) / 2 ^ 32) := by
  have bounded : bits % 2 ^ 32 < 2 ^ 32 := Nat.mod_lt _ (by norm_num)
  have fraction := denotes_ofFractionBits bits
  rw [leastWithBits]
  generalize bits % 2 ^ 32 = leading at *
  have few : bound * leading ≤ 180 * 2 ^ 32 := Nat.mul_le_mul short bounded.le
  have one : Denotes 1.0 ((2 ^ 32 : ℤ) / 2 ^ 32) := by decide +kernel
  have whole : Denotes reach ((bound * 2 ^ 32 : ℤ) / 2 ^ 32) := by
    have same : ((bound * 2 ^ 32 : ℤ) : ℚ) / 2 ^ 32 = bound := by norm_num
    rwa [same]
  have above := fraction.sub_steps (by norm_num) one (by omega) (by omega)
  rw [add_sub_cancel_left] at above
  have stretched := (denotes_twice denotes short).mul_steps (by norm_num) above
    (by rw [mul_assoc]; omega) (by rw [mul_assoc]; omega)
  rw [mul_assoc] at stretched
  exact stretched.sub_steps (by norm_num) whole (by omega) (by omega)

/-- The size of the part that the known bits select. -/
theorem denotes_part {known : Nat} (shallow : known ≤ 32) :
    Denotes (2.0 * reach / Float.ofNat (2 ^ known))
      ((2 * (bound * 2 ^ (32 - known) : ℕ) : ℤ) / 2 ^ 32) := by
  have same : ((2 * bound : ℤ) : ℚ) / 2 ^ known =
      (2 * (bound * 2 ^ (32 - known) : ℕ) : ℤ) / 2 ^ 32 := by
    rw [two_pow_split shallow]
    push_cast
    field_simp
  rw [← same]
  exact (denotes_twice denotes short).div (denotes_two_pow known shallow) (by positivity)
    (representable_steps (by omega) (by omega) (by omega))

/-- The middle of the part that the known bits select. -/
theorem denotes_middleWithBits {known : Nat} (shallow : known ≤ 32) (bits : Nat) :
    Denotes (middleWithBits reach known bits)
      (2 * bound * ((bits % 2 ^ 32 : ℕ) / 2 ^ 32) - bound + bound / 2 ^ known) := by
  have bounded : bits % 2 ^ 32 < 2 ^ 32 := Nat.mod_lt _ (by norm_num)
  have least := denotes_leastWithBits denotes short bits
  have part := denotes_part denotes short shallow
  have share : (bound / 2 ^ known : ℚ) = (bound * 2 ^ (32 - known) : ℕ) / 2 ^ 32 := by
    rw [two_pow_split shallow]
    push_cast
    field_simp
  have fewer : bound * 2 ^ (32 - known) ≤ 180 * 2 ^ 32 :=
    Nat.mul_le_mul short (Nat.pow_le_pow_right (by norm_num) (Nat.sub_le _ _))
  rw [middleWithBits, share]
  generalize bits % 2 ^ 32 = leading at *
  generalize bound * 2 ^ (32 - known) = steps at *
  have few : bound * leading ≤ 180 * 2 ^ 32 := Nat.mul_le_mul short bounded.le
  have greatest := least.add_steps (by norm_num) part (by omega) (by omega)
  have sum := least.add_steps (by norm_num) greatest (by omega) (by omega)
  have twice : 2 * (bound * leading) - bound * 2 ^ 32 +
      (2 * (bound * leading) - bound * 2 ^ 32 + 2 * steps) =
        (2 * (2 * (bound * leading) - bound * 2 ^ 32 + steps) : ℤ) := by
    ring
  rw [twice] at sum
  have half := sum.half_steps (by norm_num) (by omega) (by omega)
  have same : ((2 * (bound * leading) - bound * 2 ^ 32 + steps : ℤ) : ℚ) / 2 ^ 32 =
      2 * bound * (leading / 2 ^ 32) - bound + steps / 2 ^ 32 := by
    push_cast
    ring
  rwa [same] at half

end Middle

end Bucket

end LoadAtlas
