import LoadAtlas.Basic

/-!
# Interleaved coordinates

Two coordinates of 32 bits are woven into one number of 64 bits: the bits of the second stand
at the odd places and the bits of the first at the even ones, so that the number's leading
bits describe a rectangle around the pair.  Taking every other bit undoes the weaving.
-/

namespace LoadAtlas
namespace Bucket

/-- The lowest `bits` bits of two numbers woven together, a bit of the second above the bit of
the first at each place. -/
def interleave : (bits : Nat) → (first second : Nat) → Nat
  | 0, _, _ => 0
  | bits + 1, first, second =>
      4 * interleave bits (first / 2) (second / 2) + 2 * (second % 2) + first % 2

/-- The number made of the `bits` lowest bits at even places. -/
def evenBits : (bits : Nat) → (woven : Nat) → Nat
  | 0, _ => 0
  | bits + 1, woven => 2 * evenBits bits (woven / 4) + woven % 2

/-- The bits of the first number stand at the even places. -/
theorem evenBits_interleave (bits first second : Nat) :
    evenBits bits (interleave bits first second) = first % 2 ^ bits := by
  induction bits generalizing first second with
  | zero => simp [evenBits, Nat.mod_one]
  | succ bits induction =>
      simp only [evenBits, interleave]
      have quotient : (4 * interleave bits (first / 2) (second / 2) + 2 * (second % 2) +
          first % 2) / 4 = interleave bits (first / 2) (second / 2) := by omega
      rw [quotient, induction, Nat.pow_succ', Nat.mod_mul]
      omega

/-- The bits of the second number stand at the odd places. -/
theorem evenBits_interleave_half (bits first second : Nat) :
    evenBits bits (interleave bits first second / 2) = second % 2 ^ bits := by
  induction bits generalizing first second with
  | zero => simp [evenBits, Nat.mod_one]
  | succ bits induction =>
      simp only [evenBits, interleave]
      have quotient : (4 * interleave bits (first / 2) (second / 2) + 2 * (second % 2) +
          first % 2) / 2 / 4 = interleave bits (first / 2) (second / 2) / 2 := by omega
      rw [quotient, induction, Nat.pow_succ', Nat.mod_mul]
      omega

end Bucket
end LoadAtlas
