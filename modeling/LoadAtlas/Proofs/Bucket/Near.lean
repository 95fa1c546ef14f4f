import LoadAtlas.Proofs.Bucket.Leading
import LoadAtlas.Proofs.Bucket.Stretch

/-!
# Representative locations

The bits of a coordinate that a key keeps select a part of the coordinate's range, and the
representative location is in the middle of that part.

Both ends of a range are accepted, but the bits do not tell them apart: the greatest coordinates
share the bits of the least one.  For longitudes the ends are the same meridian and nothing is
lost.  For latitudes they are the two poles, and a request from the north pole is counted in the
southernmost row of buckets.
-/

namespace LoadAtlas

open Double

namespace Bucket

/-! ## Parts of a range -/

theorem cutOff_le (bits number : Nat) : cutOff bits number ≤ number :=
  Nat.div_mul_le_self number _

section Parts

variable {known : Nat} (shallow : known ≤ 32)

include shallow

/-- The known bits as a fraction. -/
theorem cutOff_div {number : Nat} (bounded : number < 2 ^ 32) :
    ((cutOff (32 - known) number % 2 ^ 32 : ℕ) : ℚ) / 2 ^ 32 =
      (number / 2 ^ (32 - known) : ℕ) / 2 ^ known := by
  rw [Nat.mod_eq_of_lt ((cutOff_le _ _).trans_lt bounded), cutOff, two_pow_split shallow]
  push_cast
  field_simp

/-- The known bits of a fraction select the part in which it is. -/
theorem part_of_fraction {fraction : ℚ} (least : 0 ≤ fraction) (less : fraction < 1) :
    ((⌊fraction * 2 ^ 32⌋₊ % 2 ^ 32 / 2 ^ (32 - known) : ℕ) : ℚ) ≤ fraction * 2 ^ known ∧
      fraction * 2 ^ known < (⌊fraction * 2 ^ 32⌋₊ % 2 ^ 32 / 2 ^ (32 - known) : ℕ) + 1 := by
  have few : ⌊fraction * 2 ^ 32⌋₊ < 2 ^ 32 := by
    rw [Nat.floor_lt (by positivity)]
    push_cast
    linarith
  have scaled : fraction * 2 ^ 32 / (2 ^ (32 - known) : ℕ) = fraction * 2 ^ known := by
    rw [two_pow_split shallow]
    push_cast
    field_simp
  rw [Nat.mod_eq_of_lt few, ← Nat.floor_div_natCast, scaled]
  exact ⟨Nat.floor_le (by positivity), Nat.lt_floor_add_one _⟩

end Parts

/-- The middle of a part is within one part of what is near to the part. -/
theorem abs_middle_sub_le {known : Nat} {fraction share part bound : ℚ} (nonnegative : 0 ≤ bound)
    (shallow : known ≤ 32) (below : part ≤ fraction * 2 ^ known)
    (above : fraction * 2 ^ known < part + 1) (close : |fraction - (share + 1 / 2)| ≤ 1 / 2 ^ 51) :
    |2 * bound * (part / 2 ^ known) - bound + bound / 2 ^ known - 2 * bound * share| ≤
      2 * bound / 2 ^ known := by
  have parts : (0 : ℚ) < 2 ^ known := by positivity
  have few : (2 : ℚ) ^ known ≤ 2 ^ 32 := pow_le_pow_right₀ (by norm_num) shallow
  have least : 1 / 2 ^ 51 ≤ 1 / (2 * 2 ^ known : ℚ) :=
    one_div_le_one_div_of_le (by positivity) (by linarith)
  have inner : |part / 2 ^ known + 1 / (2 * 2 ^ known) - (share + 1 / 2)| ≤ 1 / 2 ^ known := by
    have half : 1 / 2 ^ known = 1 / (2 * 2 ^ known) + 1 / (2 * 2 ^ known : ℚ) := by
      field_simp
      norm_num
    have lower : part / 2 ^ known ≤ fraction := (div_le_iff₀ parts).mpr below
    have upper : fraction < part / 2 ^ known + 1 / 2 ^ known := by
      rw [← add_div]
      exact (lt_div_iff₀ parts).mpr above
    obtain ⟨west, east⟩ := abs_le.mp close
    exact abs_le.mpr ⟨by linarith, by linarith⟩
  calc |2 * bound * (part / 2 ^ known) - bound + bound / 2 ^ known - 2 * bound * share| =
        |2 * bound * (part / 2 ^ known + 1 / (2 * 2 ^ known) - (share + 1 / 2))| := by
        congr 1
        field_simp
        ring
    _ = 2 * bound * |part / 2 ^ known + 1 / (2 * 2 ^ known) - (share + 1 / 2)| := by
        rw [abs_mul, abs_of_nonneg (by linarith)]
    _ ≤ 2 * bound * (1 / 2 ^ known) := mul_le_mul_of_nonneg_left inner (by linarith)
    _ = 2 * bound / 2 ^ known := mul_one_div _ _

/-- A coordinate is read back to the middle of the part that it was stretched into.  At the end of
the range this is the first part. -/
theorem exists_middle {coordinate scale reach : Float} {degrees : ℚ} {bound known : ℕ}
    (positive : 0 < bound) (short : bound ≤ 180) (shallow : known ≤ 32)
    (range : Denotes reach bound) (factor : Denotes scale ((1 + excess) / (2 * bound)))
    (denotes : Denotes coordinate degrees) (inside : |degrees| ≤ bound) :
    ∃ shrunk stretched middle, Stretched (degrees / (2 * bound)) shrunk stretched ∧
      Denotes (middleWithBits reach known
        (cutOff (32 - known) (fractionBits (coordinate * scale + 1.5)))) middle ∧
      (stretched < 2 ∧ |middle - degrees| ≤ 2 * bound / 2 ^ known ∨
        stretched = 2 ∧ middle = bound / 2 ^ known - bound ∧
          bound - degrees ≤ 2 * bound / 2 ^ 51) := by
  have size : (0 : ℚ) < 2 * bound := range_pos positive
  have share := abs_share_le positive inside
  obtain ⟨shrunk, stretched, doubles, sum⟩ := exists_stretched positive inside denotes factor
  obtain ⟨least, greatest⟩ := doubles.bounds share
  have close := doubles.close share
  have middle := denotes_middleWithBits range short shallow
    (cutOff (32 - known) (fractionBits (coordinate * scale + 1.5)))
  rw [fractionBits_eq sum least greatest, cutOff_div shallow (Nat.mod_lt _ (by norm_num))] at middle
  rw [fractionBits_eq sum least greatest]
  refine ⟨shrunk, stretched, _, doubles, middle, ?_⟩
  rcases greatest.lt_or_eq with less | rfl
  · obtain ⟨below, above⟩ :=
      part_of_fraction shallow (by linarith) (by linarith : stretched - 1 < 1)
    have whole : degrees = 2 * bound * (degrees / (2 * bound)) := (mul_div_cancel₀ _ size.ne').symm
    rw [show stretched - (degrees / (2 * bound) + 3 / 2) =
      stretched - 1 - (degrees / (2 * bound) + 1 / 2) by ring] at close
    have near := abs_middle_sub_le (Nat.cast_nonneg bound) shallow below above close
    rw [← whole] at near
    exact .inl ⟨less, near⟩
  · have whole : (2 - 1 : ℚ) * 2 ^ 32 = (2 ^ 32 : ℕ) := by norm_num
    refine .inr ⟨rfl, ?_, ?_⟩
    · rw [whole, Nat.floor_natCast, Nat.mod_self, Nat.zero_div, Nat.cast_zero, zero_div, mul_zero]
      ring
    · have least := (abs_le.mp close).2
      have gap : 1 / 2 - 1 / 2 ^ 51 ≤ degrees / (2 * bound) := by linarith
      rw [le_div_iff₀ size] at gap
      linarith

/-! ## Distances -/

/-- The height of a bucket, in degrees. -/
def height (precision : Nat) : ℚ :=
  180 / 2 ^ (5 * precision / 2)

/-- The width of a bucket, in degrees. -/
def width (precision : Nat) : ℚ :=
  360 / 2 ^ ((5 * precision + 1) / 2)

/-- The latitudes of two locations are no more than some degrees apart. -/
def NearLatitude (location other : Location) (degrees : ℚ) : Prop :=
  ∃ here there, Denotes location.latitude here ∧ Denotes other.latitude there ∧
    |there - here| ≤ degrees

/-- The longitudes of two locations are no more than some degrees apart, up to full turns. -/
def NearLongitude (location other : Location) (degrees : ℚ) : Prop :=
  ∃ here there, Denotes location.longitude here ∧ Denotes other.longitude there ∧
    ∃ turns : ℤ, |there - here - 360 * turns| ≤ degrees

/-- A location is no more than one bucket away from another one. -/
def Near (precision : Nat) (location other : Location) : Prop :=
  NearLatitude location other (height precision) ∧ NearLongitude location other (width precision)

/-- The greatest latitude of a double below the pole's. -/
def nextToPole : ℚ :=
  90 - 1 / 2 ^ 46

section

variable {location : Location} {precision : Nat}

/-- A location's own groups are read back to the middles of the parts that its coordinates are
in. -/
theorem centerOfGroups_groups (greatest : precision ≤ longestKey) :
    centerOfGroups (groups precision (woven location)) =
      { longitude := middleWithBits 180.0 ((5 * precision + 1) / 2)
          (cutOff (32 - (5 * precision + 1) / 2) (longitudeBits location.longitude))
        latitude := middleWithBits 90.0 (5 * precision / 2)
          (cutOff (32 - 5 * precision / 2) (latitudeBits location.latitude)) } := by
  have firstBound : latitudeBits location.latitude < 2 ^ 32 := Nat.mod_lt _ (by norm_num)
  have secondBound : longitudeBits location.longitude < 2 ^ 32 := Nat.mod_lt _ (by norm_num)
  obtain ⟨even, odd⟩ := evenBits_joined greatest firstBound secondBound
  have more : 5 * precision - 5 * precision / 2 = (5 * precision + 1) / 2 := by omega
  rw [more] at odd
  rw [centerOfGroups, length_groups, ← joined, woven, ← even, ← odd, more]

/-- The longitude is read back correctly, up to a full turn. -/
theorem nearLongitude_centerOfGroups (onGlobe : location.OnGlobe)
    (greatest : precision ≤ longestKey) :
    NearLongitude location (centerOfGroups (groups precision (woven location)))
      (width precision) := by
  obtain ⟨⟨degrees, denotes, inside⟩, -⟩ := onGlobe
  have twelve : precision ≤ 12 := greatest
  have range : Denotes 180.0 ((180 : ℕ) : ℚ) := by decide +kernel
  have factor : Denotes 0.002777777777777778 ((1 + excess) / (2 * (180 : ℕ))) := by
    decide +kernel
  obtain ⟨shrunk, stretched, middle, -, center, ⟨-, near⟩ | ⟨-, same, gap⟩⟩ :=
    exists_middle (by norm_num) le_rfl (by omega : (5 * precision + 1) / 2 ≤ 32) range factor
      denotes inside
  all_goals
    rw [centerOfGroups_groups greatest]
    refine ⟨degrees, middle, denotes, center, ?_⟩
  · refine ⟨0, (le_of_eq ?_).trans (near.trans_eq ?_)⟩
    · norm_num
    · rw [width]
      norm_num
  · -- At the antimeridian the first part is the one after the last part.
    have east := (abs_le.mp inside).2
    have parts : (2 : ℚ) ^ ((5 * precision + 1) / 2) ≤ 2 ^ 32 :=
      pow_le_pow_right₀ (by norm_num) (by omega)
    have least : 1 / 2 ^ 50 ≤ 1 / (2 : ℚ) ^ ((5 * precision + 1) / 2) :=
      one_div_le_one_div_of_le (by positivity) (by linarith)
    refine ⟨-1, ?_⟩
    rw [width, same, abs_le]
    push_cast at gap east ⊢
    rw [div_eq_mul_one_div 180, div_eq_mul_one_div 360]
    constructor <;> linarith

/-- The latitude is read back correctly, but for the two greatest ones, which are read back to the
southernmost row. -/
theorem latitude_centerOfGroups (onGlobe : location.OnGlobe) (greatest : precision ≤ longestKey) :
    ∃ latitude middle, Denotes location.latitude latitude ∧
      Denotes (centerOfGroups (groups precision (woven location))).latitude middle ∧
        (latitude < nextToPole ∧ |middle - latitude| ≤ height precision ∨
          nextToPole ≤ latitude ∧ middle = height precision / 2 - 90) := by
  obtain ⟨-, degrees, denotes, inside⟩ := onGlobe
  have twelve : precision ≤ 12 := greatest
  have range : Denotes 90.0 ((90 : ℕ) : ℚ) := by decide +kernel
  have factor : Denotes 0.005555555555555556 ((1 + excess) / (2 * (90 : ℕ))) := by
    decide +kernel
  obtain ⟨shrunk, stretched, middle, doubles, center, placed⟩ :=
    exists_middle (by norm_num) (by norm_num) (by omega : 5 * precision / 2 ≤ 32) range factor
      denotes inside
  have turn : (2 * (90 : ℕ) : ℚ) = 180 := by norm_num
  rw [turn] at doubles placed
  have reached := doubles.eq_two_iff denotes.fits inside
  rw [centerOfGroups_groups greatest]
  refine ⟨degrees, middle, denotes, center, ?_⟩
  rcases placed with ⟨less, near⟩ | ⟨same, wrapped, -⟩
  · exact .inl ⟨not_le.mp (mt reached.mpr less.ne), near⟩
  · refine .inr ⟨reached.mp same, ?_⟩
    rw [wrapped, height]
    push_cast
    ring

/-- The southernmost row is more than a bucket away from the northernmost latitudes. -/
theorem height_lt (least : 1 ≤ precision) {latitude : ℚ} (near : nextToPole ≤ latitude) :
    height precision < |height precision / 2 - 90 - latitude| := by
  have rows : (2 : ℚ) ^ 2 ≤ 2 ^ (5 * precision / 2) :=
    pow_le_pow_right₀ (by norm_num) (by omega)
  have quarter : height precision ≤ 45 := by
    rw [height, div_le_iff₀ (by positivity)]
    linarith
  rw [nextToPole] at near
  norm_num at near
  rw [abs_sub_comm]
  refine lt_of_lt_of_le ?_ (le_abs_self _)
  linarith

/-- Every accepted location has a bucket of each precision, and the representative location that
the key leads back to is no more than one bucket away from it, except at the two greatest
latitudes: there it is in the southernmost row. -/
theorem exists_address_near (accepted : location.check = .ok ()) (least : 1 ≤ precision)
    (greatest : precision ≤ longestKey) :
    ∃ found latitude, address location precision = .ok found ∧ found.key.length = precision ∧
      representative found.key = .ok found.location ∧ Denotes location.latitude latitude ∧
        NearLongitude location found.location (width precision) ∧
          (NearLatitude location found.location (height precision) ↔ latitude < nextToPole) ∧
            (nextToPole ≤ latitude →
              Denotes found.location.latitude (height precision / 2 - 90)) := by
  have onGlobe := Location.check_eq_ok_iff.mp accepted
  have inside := Location.inRange_iff.mpr onGlobe
  obtain ⟨latitude, middle, denotes, center, placed⟩ := latitude_centerOfGroups onGlobe greatest
  refine ⟨_, latitude, address_eq_ok inside least greatest, ?_,
    representative_spell_groups least greatest _, denotes,
    nearLongitude_centerOfGroups onGlobe greatest, ?_⟩
  · rw [length_spell, length_groups]
  · rcases placed with ⟨less, near⟩ | ⟨beyond, rfl⟩
    · exact ⟨iff_of_true ⟨latitude, middle, denotes, center, near⟩ less,
        fun beyond => absurd less (not_lt.mpr beyond)⟩
    · refine ⟨iff_of_false ?_ (not_lt.mpr beyond), fun _ => center⟩
      rintro ⟨here, there, hereDenotes, thereDenotes, apart⟩
      rw [hereDenotes.unique denotes, thereDenotes.unique center] at apart
      exact absurd apart (not_le.mpr (height_lt least beyond))

end

theorem exists_address_near_standard :
    let location : Location := { longitude := 180, latitude := 89.99999999999997 }
    (location.check = .ok () ∧ 1 ≤ 9 ∧ 9 ≤ longestKey) ∧
      ∃ found latitude, address location 9 = .ok found ∧ found.key.length = 9 ∧
        representative found.key = .ok found.location ∧ Denotes location.latitude latitude ∧
          NearLongitude location found.location (width 9) ∧
            (NearLatitude location found.location (height 9) ↔ latitude < nextToPole) ∧
              (nextToPole ≤ latitude →
                Denotes found.location.latitude (height 9 / 2 - 90)) := by
  intro location
  have inside : inRange location = true := by decide +kernel
  have accepted : location.check = .ok () :=
    Location.check_eq_ok_iff.mpr (Location.inRange_iff.mp inside)
  exact ⟨⟨accepted, by decide, by decide⟩, exists_address_near accepted (by decide) (by decide)⟩

/-- A location at the pole is accepted, and its bucket is at the other pole. -/
theorem not_near_pole :
    let location : Location := { longitude := 0, latitude := 90 }
    location.check = .ok () ∧
      ¬ ∃ found, address location 9 = .ok found ∧ Near 9 location found.location := by
  intro location
  have inside : inRange location = true := by decide +kernel
  have center : Denotes (centerOfGroups (groups 9 (woven location))).latitude
      (90 / 2 ^ 22 - 90) := by decide +kernel
  have pole : Denotes location.latitude 90 := by decide +kernel
  refine ⟨Location.check_eq_ok_iff.mpr (Location.inRange_iff.mp inside), ?_⟩
  rintro ⟨found, same, ⟨here, there, hereDenotes, thereDenotes, apart⟩, -⟩
  rw [address_eq_ok inside (by decide) (by decide)] at same
  obtain rfl := Except.ok.inj same
  rw [hereDenotes.unique pole, thereDenotes.unique center, height] at apart
  norm_num at apart

end Bucket

end LoadAtlas
