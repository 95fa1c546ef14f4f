import LoadAtlas.Proofs.Bucket.Key
import LoadAtlas.Bucket.Interleave

/-!
# The leading bits of woven numbers

The groups of a key are the leading bits of a woven number, so putting them together cuts the
number off.  What is then at the even and at the odd places are the leading bits of the two
numbers that were woven, the second one of which has the first of all bits.
-/

namespace LoadAtlas

namespace Bucket

/-- A number with its last bits set to zero. -/
def cutOff (bits number : Nat) : Nat :=
  number / 2 ^ bits * 2 ^ bits

theorem cutOff_succ (bits number : Nat) :
    cutOff (bits + 1) number = 2 * cutOff bits (number / 2) := by
  rw [cutOff, cutOff, Nat.pow_succ', ← Nat.div_div_eq_div_mul, Nat.mul_left_comm]

theorem cutOff_half (bits number : Nat) :
    cutOff (bits + 1) number / 2 = cutOff bits (number / 2) := by
  rw [cutOff_succ, Nat.mul_div_cancel_left _ (by decide : 0 < 2)]

/-! ## Every other bit -/

/-- Cutting off commutes with taking every other bit. -/
theorem evenBits_cutOff (bits cut woven : Nat) :
    evenBits bits (cutOff cut woven) = cutOff ((cut + 1) / 2) (evenBits bits woven) := by
  induction bits generalizing cut woven with
  | zero => simp [evenBits, cutOff]
  | succ bits induction =>
      have here : (2 * evenBits bits (woven / 4) + woven % 2) / 2 = evenBits bits (woven / 4) := by
        omega
      rcases cut with _ | _ | cut
      · simp [cutOff]
      · have there : cutOff 1 woven / 4 = woven / 4 := by
          rw [cutOff]
          omega
        have even : cutOff 1 woven % 2 = 0 := Nat.mul_mod_left _ 2
        rw [evenBits, evenBits, there, even, cutOff_succ, here, cutOff, Nat.pow_zero, Nat.div_one,
          Nat.mul_one, Nat.add_zero]
      · have there : cutOff (cut + 2) woven / 4 = cutOff cut (woven / 4) := by
          have quarter : woven / 4 = woven / 2 / 2 := by omega
          rw [cutOff_succ, cutOff_succ, quarter]
          omega
        have even : cutOff (cut + 2) woven % 2 = 0 := by
          rw [cutOff_succ]
          omega
        have half : (cut + 2 + 1) / 2 = (cut + 1) / 2 + 1 := by omega
        rw [evenBits, evenBits, there, even, induction, half, cutOff_succ, here, Nat.add_zero]

theorem interleave_lt (bits first second : Nat) : interleave bits first second < 4 ^ bits := by
  induction bits generalizing first second with
  | zero => simp [interleave]
  | succ bits induction =>
      have rest := induction (first / 2) (second / 2)
      rw [interleave, Nat.pow_succ']
      omega

/-! ## Groups -/

/-- The groups of a key put together. -/
def joined (read : List Nat) : Nat :=
  read.foldl (32 * · + ·) 0

theorem joined_groups {woven : Nat} (bounded : woven < 2 ^ 64) {length : Nat}
    (short : length ≤ longestKey) :
    joined (groups length woven) = woven / 2 ^ (64 - 5 * length) := by
  induction length with
  | zero => exact (Nat.div_eq_of_lt bounded).symm
  | succ length induction =>
      have twelve : length + 1 ≤ 12 := short
      have place : 64 - 5 * length = 64 - 5 * (length + 1) + 5 := by omega
      have before := induction (Nat.le_of_succ_le short)
      rw [joined] at before ⊢
      rw [groups, List.range_succ, List.map_append, ← groups, List.foldl_append, before, place,
        Nat.pow_add, ← Nat.div_div_eq_div_mul]
      exact Nat.div_add_mod _ 32

section

variable {length first second : Nat} (short : length ≤ longestKey) (firstBound : first < 2 ^ 32)
  (secondBound : second < 2 ^ 32)

include short firstBound secondBound

/-- A key that was made of two numbers is read back to their leading bits. -/
theorem evenBits_joined :
    evenBits 32 (joined (groups length (interleave 32 first second)) * 2 ^ (64 - 5 * length)) =
      cutOff (32 - 5 * length / 2) first ∧
    evenBits 32 (joined (groups length (interleave 32 first second)) * 2 ^ (64 - 5 * length) / 2) =
      cutOff (32 - (5 * length - 5 * length / 2)) second := by
  have twelve : length ≤ 12 := short
  have bounded : interleave 32 first second < 2 ^ 64 := interleave_lt 32 first second
  rw [joined_groups bounded short, ← cutOff]
  obtain ⟨cut, split⟩ : ∃ cut, 64 - 5 * length = cut + 1 := ⟨63 - 5 * length, by omega⟩
  constructor
  · rw [evenBits_cutOff, evenBits_interleave, Nat.mod_eq_of_lt firstBound]
    congr 1
    omega
  · rw [split, cutOff_half, evenBits_cutOff, evenBits_interleave_half, Nat.mod_eq_of_lt secondBound]
    congr 1
    omega

end

end Bucket

end LoadAtlas
