import LoadAtlas.Proofs.Bucket.Key
import LoadAtlas.Proofs.Double.Denotes

/-!
# Locations on the globe

A location is on the globe if its coordinates are finite and within their bounds.  Two checks ask
for this in different ways: the check of a request looks at finiteness and magnitude of each
coordinate, and the making of a key compares each coordinate with both ends of its range.  On all
doubles, those that are no numbers or are infinite among them, they agree.
-/

namespace LoadAtlas

open Double

/-- A double is finite, and its magnitude does not exceed a bound. -/
def Within (value : Float) (bound : ℚ) : Prop :=
  ∃ degrees, Denotes value degrees ∧ |degrees| ≤ bound

/-- A double between two opposite ones is one within their magnitude. -/
theorem within_iff {value least greatest : Float} {bound : ℚ} (lower : Denotes least (-bound))
    (upper : Denotes greatest bound) :
    Within value bound ↔ least ≤ value ∧ value ≤ greatest := by
  constructor
  · rintro ⟨degrees, denotes, small⟩
    obtain ⟨above, below⟩ := abs_le.mp small
    exact ⟨(lower.le_iff denotes).mpr above, (denotes.le_iff upper).mpr below⟩
  · rintro ⟨above, below⟩
    obtain ⟨degrees, denotes⟩ := isFinite_iff.mp (lower.isFinite_of_le_of_le upper above below)
    refine ⟨degrees, denotes, abs_le.mpr ⟨?_, ?_⟩⟩
    · exact (lower.le_iff denotes).mp above
    · exact (denotes.le_iff upper).mp below

namespace Axis

theorem denotes_bound (axis : Axis) : Denotes (Float.ofNat axis.bound) axis.bound := by
  cases axis <;> decide +kernel

/-- A coordinate is accepted iff it is finite and within its bounds. -/
theorem check_eq_ok_iff (axis : Axis) (value : Float) :
    axis.check value = .ok () ↔ Within value axis.bound := by
  rw [check]
  by_cases finite : value.isFinite = true
  · obtain ⟨degrees, denotes⟩ := isFinite_iff.mp finite
    have beyond := axis.denotes_bound.lt_iff denotes.abs
    have exceeds : Within value axis.bound ↔ ¬ (axis.bound : ℚ) < |degrees| := by
      rw [not_lt]
      constructor
      · rintro ⟨others, otherDenotes, small⟩
        rwa [denotes.unique otherDenotes]
      · intro small
        exact ⟨degrees, denotes, small⟩
    rw [if_neg (not_not.mpr finite), exceeds, ← beyond]
    by_cases greater : Float.ofNat axis.bound < value.abs <;> simp [greater]
  · rw [if_pos finite]
    refine iff_of_false (by simp) ?_
    rintro ⟨degrees, denotes, -⟩
    exact finite (isFinite_iff.mpr ⟨degrees, denotes⟩)

end Axis

namespace Location

/-- The coordinates are finite and within their bounds. -/
def OnGlobe (location : Location) : Prop :=
  Within location.longitude 180 ∧ Within location.latitude 90

variable {location : Location}

theorem check_eq_ok_iff : location.check = .ok () ↔ location.OnGlobe := by
  have longitude := Axis.longitude.check_eq_ok_iff location.longitude
  have latitude := Axis.latitude.check_eq_ok_iff location.latitude
  have east : ((Axis.longitude.bound : Nat) : ℚ) = 180 := by norm_num [Axis.bound]
  have north : ((Axis.latitude.bound : Nat) : ℚ) = 90 := by norm_num [Axis.bound]
  rw [OnGlobe, ← east, ← north, ← longitude, ← latitude, check]
  cases Axis.longitude.check location.longitude with
  | error fault => exact iff_of_false (fun accepted => by cases accepted) (by simp)
  | ok _ => exact (and_iff_right rfl).symm

theorem inRange_iff : Bucket.inRange location = true ↔ location.OnGlobe := by
  have west : Denotes (-180.0) (-180) := by decide +kernel
  have east : Denotes 180.0 180 := by decide +kernel
  have south : Denotes (-90.0) (-90) := by decide +kernel
  have north : Denotes 90.0 90 := by decide +kernel
  rw [OnGlobe, within_iff west east, within_iff south north, Bucket.inRange]
  simp [and_assoc]

end Location

namespace Bucket

variable {location : Location} {precision : Nat}

/-- Locations on the globe, and no others, have a bucket of each admitted precision. -/
theorem exists_address_iff (least : 1 ≤ precision) (greatest : precision ≤ longestKey) :
    (∃ found, address location precision = .ok found) ↔ location.check = .ok () := by
  rw [Location.check_eq_ok_iff, ← Location.inRange_iff]
  cases inside : inRange location with
  | false => simp [address_eq_error inside]
  | true => simp [address_eq_ok inside least greatest]

end Bucket

end LoadAtlas
