import LoadAtlas.Proofs.Double.Nearest
import Mathlib

/-!
# The rationals that doubles denote

A finite double denotes a rational.  The word of a double splits into a sign, an exponent and a
mantissa; put together again they give the same double.  Comparisons of finite doubles are
comparisons of the rationals that they denote.
-/

namespace LoadAtlas

namespace Double

open Float.Model (Format UnpackedFloat)
open Float.Model.UnpackedFloat

/-- A magnitude with a sign in front. -/
def signed : Sign → ℚ → ℚ
  | .negative, magnitude => -magnitude
  | .positive, magnitude => magnitude

/-- The rational that an unpacked double stands for, if it is finite. -/
def rational? : UnpackedFloat → Option ℚ
  | .finite sign mantissa exponent _ => some (signed sign (mantissa * 2 ^ exponent))
  | .zero _ => some 0
  | .infinity _ => none
  | .notANumber => none

/-- A double is finite, and it stands for this rational. -/
def Denotes (double : Float) (rational : ℚ) : Prop :=
  rational? double.toModel.unpack = some rational

instance (double : Float) (rational : ℚ) : Decidable (Denotes double rational) :=
  inferInstanceAs (Decidable (rational? double.toModel.unpack = some rational))

/-- A mantissa has 53 bits, or fewer at the least exponent. -/
structure Settled (mantissa : Nat) (exponent : ℤ) : Prop where
  short : mantissa < 2 ^ 53
  least : -1074 ≤ exponent
  full : 2 ^ 52 ≤ mantissa ∨ exponent = -1074

/-! ## Taking words apart -/

section Words

variable (word : BitVec Format.binary64.numBits)

/-- The lowest 52 bits of a word. -/
def fraction : Nat :=
  word.toNat % 2 ^ 52

/-- The eleven bits above the fraction. -/
def field : Nat :=
  word.toNat / 2 ^ 52 % 2 ^ 11

theorem toNat_unpackMantissa : (unpackMantissa word).toNat = fraction word := by
  simp [unpackMantissa, fraction]

theorem toNat_unpackExponent : (unpackExponent word).toNat = field word := by
  simp [unpackExponent, field, Nat.shiftRight_eq_div_pow]

theorem fraction_lt : fraction word < 2 ^ 52 :=
  Nat.mod_lt _ (by norm_num)

theorem field_lt : field word < 2 ^ 11 :=
  Nat.mod_lt _ (by norm_num)

theorem toNat_implicit_append (mantissa : BitVec 52) :
    (1#1 ++ mantissa).toNat = 2 ^ 52 + mantissa.toNat := by
  rw [BitVec.toNat_append, ← Nat.shiftLeft_add_eq_or_of_lt mantissa.isLt]
  simp [Nat.shiftLeft_eq]

theorem unpackSign_eq_zero_iff : unpackSign word = 0#1 ↔ word.toNat < 2 ^ 63 := by
  have bounded : word.toNat < 2 ^ 64 := word.isLt
  rw [← BitVec.toNat_inj]
  simp only [unpackSign, BitVec.toNat_cast, BitVec.extractLsb_toNat, BitVec.toNat_ofNat,
    Nat.shiftRight_eq_div_pow]
  omega

theorem unpackExponent_eq_allOnes_iff : unpackExponent word = -1#11 ↔ field word = 2047 := by
  rw [← toNat_unpackExponent, ← BitVec.toNat_inj]
  rfl

theorem unpackExponent_eq_zero_iff : unpackExponent word = 0#11 ↔ field word = 0 := by
  rw [← toNat_unpackExponent, ← BitVec.toNat_inj]
  rfl

theorem unpackMantissa_eq_zero_iff : unpackMantissa word = 0#52 ↔ fraction word = 0 := by
  rw [← toNat_unpackMantissa, ← BitVec.toNat_inj]
  rfl

variable {word}

theorem rational?_unpack_of_special (special : field word = 2047) :
    rational? (unpack Format.binary64 word) = none := by
  rw [unpack, if_pos ((unpackExponent_eq_allOnes_iff word).mpr special)]
  split <;> rfl

theorem unpack_of_zero (least : field word = 0) (nothing : fraction word = 0) :
    unpack Format.binary64 word = .zero (Sign.ofBitVec (unpackSign word)) := by
  rw [unpack, if_neg ((unpackExponent_eq_allOnes_iff word).not.mpr (by omega)),
    if_pos ((unpackExponent_eq_zero_iff word).mpr least),
    dif_pos ((unpackMantissa_eq_zero_iff word).mpr nothing)]

theorem unpack_of_subnormal (least : field word = 0) (something : 0 < fraction word) :
    unpack Format.binary64 word =
      .finite (Sign.ofBitVec (unpackSign word)) (fraction word) (-1074) something := by
  rw [unpack, if_neg ((unpackExponent_eq_allOnes_iff word).not.mpr (by omega)),
    if_pos ((unpackExponent_eq_zero_iff word).mpr least),
    dif_neg ((unpackMantissa_eq_zero_iff word).not.mpr (by omega))]
  simp [toNat_unpackMantissa, toNat_unpackExponent, least, Float.Model.Format.exponentBias]

theorem unpack_of_normal (least : 0 < field word) (greatest : field word < 2047) :
    unpack Format.binary64 word =
      .finite (Sign.ofBitVec (unpackSign word)) (2 ^ 52 + fraction word) (field word - 1075)
        (by omega) := by
  rw [unpack, if_neg ((unpackExponent_eq_allOnes_iff word).not.mpr (by omega)),
    if_neg ((unpackExponent_eq_zero_iff word).not.mpr (by omega))]
  simp [toNat_implicit_append, toNat_unpackMantissa, toNat_unpackExponent,
    Float.Model.Format.exponentBias]

/-- What a finite double other than zero is taken apart to. -/
theorem settled_of_unpack {sign : Sign} {mantissa : Nat} {exponent : ℤ} {positive : 0 < mantissa}
    (unpacked : unpack Format.binary64 word = .finite sign mantissa exponent positive) :
    Settled mantissa exponent ∧ exponent ≤ 971 ∧ mantissa % 2 ^ 52 = fraction word := by
  have fieldBound := field_lt word
  have fractionBound := fraction_lt word
  rcases Nat.eq_zero_or_pos (field word) with least | notLeast
  · rcases Nat.eq_zero_or_pos (fraction word) with nothing | something
    · rw [unpack_of_zero least nothing] at unpacked
      cases unpacked
    · rw [unpack_of_subnormal least something] at unpacked
      cases unpacked
      exact ⟨⟨by omega, le_rfl, .inr rfl⟩, by norm_num, by omega⟩
  · rcases eq_or_ne (field word) 2047 with special | ordinary
    · have none := rational?_unpack_of_special special
      rw [unpacked] at none
      cases none
    · rw [unpack_of_normal notLeast (by omega)] at unpacked
      cases unpacked
      exact ⟨⟨by omega, by omega, .inl (by omega)⟩, by omega, by omega⟩

end Words

/-! ## Putting words together -/

section Pack

variable (sign : Sign) (exponent : BitVec 11) (mantissa : BitVec 52)

@[simp]
theorem fraction_packComponents :
    fraction (packComponents Format.binary64 sign exponent mantissa) = mantissa.toNat := by
  rw [← toNat_unpackMantissa, unpackMantissa_packComponents]

@[simp]
theorem field_packComponents :
    field (packComponents Format.binary64 sign exponent mantissa) = exponent.toNat := by
  rw [← toNat_unpackExponent, unpackExponent_packComponents]

/-- A settled double that is not too great is put together and taken apart again. -/
theorem unpack_pack_finite {mantissa : Nat} {exponent : ℤ} (positive : 0 < mantissa)
    (settled : Settled mantissa exponent) (greatest : exponent ≤ 971) :
    unpack Format.binary64 (pack Format.binary64 (.finite sign mantissa exponent positive)) =
      .finite sign mantissa exponent positive := by
  obtain ⟨short, least, full⟩ := settled
  have bias : (exponent + (Format.binary64.exponentBias : ℤ) + (52 : ℕ)).toNat =
      (exponent + 1075).toNat := by
    simp [Float.Model.Format.exponentBias, add_assoc]
  have room : ¬ 2 ^ 11 ≤ (exponent + 1075).toNat + 1 := by omega
  rw [pack]
  simp only [bias]
  rw [if_neg room]
  by_cases normal : 2 ^ 52 ≤ mantissa
  · have digits : mantissa.log2 + 1 = Format.binary64.mantissaBits := by
      rw [(Nat.log2_eq_iff positive.ne').mpr ⟨normal, short⟩]
      rfl
    rw [if_pos digits, unpack_of_normal] <;>
      simp only [unpackSign_packComponents, Sign.ofBitVec_toBitVec, fraction_packComponents,
        field_packComponents, BitVec.toNat_ofNat]
    · congr 1 <;> omega
    all_goals omega
  · have digits : mantissa.log2 + 1 ≠ Format.binary64.mantissaBits := fun same => normal <|
      ((Nat.log2_eq_iff positive.ne').mp (Nat.succ.inj same)).1
    rw [if_neg digits, unpack_of_subnormal] <;>
      simp only [unpackSign_packComponents, Sign.ofBitVec_toBitVec, fraction_packComponents,
        field_packComponents, BitVec.toNat_ofNat]
    · congr 1 <;> omega
    all_goals first | rfl | omega

end Pack

/-! ## Finite doubles -/

/-- An unpacked double in settled form stands for a rational. -/
inductive Stands : UnpackedFloat → ℚ → Prop
  | zero (sign : Sign) : Stands (.zero sign) 0
  | finite (sign : Sign) {mantissa : Nat} {exponent : ℤ} (positive : 0 < mantissa)
      (settled : Settled mantissa exponent) :
      Stands (.finite sign mantissa exponent positive) (signed sign (mantissa * 2 ^ exponent))

variable {sign : Sign} {mantissa : Nat} {exponent : ℤ}

theorem magnitude_pos (positive : 0 < mantissa) (exponent : ℤ) :
    (0 : ℚ) < mantissa * 2 ^ exponent :=
  mul_pos (by exact_mod_cast positive) (two_zpow_pos exponent)

theorem abs_signed (sign : Sign) (magnitude : ℚ) : |signed sign magnitude| = |magnitude| := by
  cases sign
  · exact abs_neg magnitude
  · rfl

theorem abs_signed_mul (sign : Sign) (mantissa : Nat) (exponent : ℤ) :
    |signed sign (mantissa * 2 ^ exponent)| = mantissa * 2 ^ exponent := by
  rw [abs_signed, abs_of_nonneg (mul_nonneg (Nat.cast_nonneg mantissa) (two_zpow_pos _).le)]

theorem fits_signed {magnitude : ℚ} (fits : Fits magnitude) (sign : Sign) :
    Fits (signed sign magnitude) := by
  cases sign
  · exact fits.neg
  · exact fits

theorem Settled.mul_lt (settled : Settled mantissa exponent) :
    (mantissa : ℚ) * 2 ^ exponent < 2 ^ (exponent + 53) := by
  rw [add_comm, two_zpow_add]
  refine mul_lt_mul_of_pos_right ?_ (two_zpow_pos exponent)
  exact_mod_cast settled.short

theorem Settled.le_mul (settled : Settled mantissa exponent) (normal : -1074 < exponent) :
    2 ^ (exponent + 52) ≤ (mantissa : ℚ) * 2 ^ exponent := by
  rw [add_comm, two_zpow_add]
  refine mul_le_mul_of_nonneg_right ?_ (two_zpow_pos exponent).le
  exact_mod_cast settled.full.resolve_right normal.ne'

namespace Stands

variable {unpacked : UnpackedFloat} {rational : ℚ}

theorem fits (stands : Stands unpacked rational) : Fits rational := by
  cases stands with
  | zero => exact fits_zero
  | @finite sign mantissa exponent _ settled =>
      refine fits_signed ⟨mantissa, exponent, ?_, settled.least, by norm_cast⟩ sign
      rw [Nat.abs_cast]
      exact_mod_cast settled.short.le

theorem exponent_le {positive : 0 < mantissa}
    (stands : Stands (.finite sign mantissa exponent positive) rational)
    (small : |rational| < 2 ^ (1024 : ℤ)) : exponent ≤ 971 := by
  cases stands with
  | finite _ _ settled =>
      rcases eq_or_lt_of_le settled.least with least | normal
      · omega
      · rw [abs_signed_mul] at small
        have beyond := two_zpow_lt_iff.mp ((settled.le_mul normal).trans_lt small)
        omega

theorem unpack_pack (stands : Stands unpacked rational) (small : |rational| < 2 ^ (1024 : ℤ)) :
    unpack Format.binary64 (pack Format.binary64 unpacked) = unpacked := by
  cases stands with
  | zero sign => exact unpack_packedZero
  | finite sign positive settled =>
      exact unpack_pack_finite sign positive settled
        (exponent_le (.finite sign positive settled) small)

end Stands

variable {double other : Float} {rational bound : ℚ}

/-- A finite double is a zero, or it has a mantissa and an exponent. -/
theorem Denotes.unpack_cases (denotes : Denotes double rational) :
    (∃ sign, double.toModel.unpack = .zero sign ∧ rational = 0) ∨
      ∃ sign mantissa exponent positive,
        double.toModel.unpack = .finite sign mantissa exponent positive ∧
          rational = signed sign (mantissa * 2 ^ exponent) := by
  rw [Denotes] at denotes
  cases unpacked : double.toModel.unpack with
  | infinity => rw [unpacked] at denotes; cases denotes
  | notANumber => rw [unpacked] at denotes; cases denotes
  | zero sign =>
      rw [unpacked] at denotes
      exact .inl ⟨sign, rfl, (Option.some.inj denotes).symm⟩
  | finite sign mantissa exponent positive =>
      rw [unpacked] at denotes
      exact .inr ⟨sign, mantissa, exponent, positive, rfl, (Option.some.inj denotes).symm⟩

theorem Denotes.stands (denotes : Denotes double rational) :
    Stands double.toModel.unpack rational := by
  obtain ⟨sign, unpacked, rfl⟩ | ⟨sign, mantissa, exponent, positive, unpacked, rfl⟩ :=
    denotes.unpack_cases
  · rw [unpacked]
    exact .zero sign
  · rw [unpacked]
    exact .finite sign positive (settled_of_unpack unpacked).1

theorem Denotes.unique (denotes : Denotes double rational) (again : Denotes double bound) :
    rational = bound :=
  Option.some.inj (denotes.symm.trans again)

theorem Denotes.fits (denotes : Denotes double rational) : Fits rational :=
  denotes.stands.fits

theorem Stands.rational? {unpacked : UnpackedFloat} (stands : Stands unpacked rational) :
    rational? unpacked = some rational := by
  cases stands <;> rfl

/-- What stands for a rational that is not too great makes up a double that denotes it. -/
theorem Stands.denotes {unpacked : UnpackedFloat} (stands : Stands unpacked rational)
    (small : |rational| < 2 ^ (1024 : ℤ)) : Denotes (.ofModel (.pack unpacked)) rational := by
  have same : (Float.Model.pack unpacked).unpack = unpacked := stands.unpack_pack small
  rw [Denotes, same, stands.rational?]

/-- A word of a positive normal double. -/
theorem denotes_ofBits {word : UInt64} (positive : word.toNat < 2 ^ 63)
    (least : 0 < field word.toBitVec) (greatest : field word.toBitVec < 2047) :
    Denotes (.ofBits word)
      ((2 ^ 52 + fraction word.toBitVec : ℕ) * 2 ^ (field word.toBitVec - 1075 : ℤ)) := by
  have fractionBound := fraction_lt word.toBitVec
  have sign : Sign.ofBitVec (@unpackSign Format.binary64 word.toBitVec) = .positive :=
    if_pos ((unpackSign_eq_zero_iff word.toBitVec).mpr positive)
  have settled : Settled (2 ^ 52 + fraction word.toBitVec) (field word.toBitVec - 1075) :=
    ⟨by omega, by omega, .inl (by omega)⟩
  change Denotes (.ofModel (.pack (unpack Format.binary64 word.toBitVec))) _
  rw [unpack_of_normal least greatest, sign]
  apply (Stands.finite .positive _ settled).denotes
  rw [abs_signed_mul]
  exact settled.mul_lt.trans_le (two_zpow_le_iff.mpr (by omega))

theorem Denotes.abs_lt (denotes : Denotes double rational) : |rational| < 2 ^ (1024 : ℤ) := by
  obtain ⟨sign, -, rfl⟩ | ⟨sign, mantissa, exponent, positive, unpacked, rfl⟩ :=
    denotes.unpack_cases
  · rw [abs_zero]
    exact two_zpow_pos _
  · obtain ⟨settled, greatest, -⟩ := settled_of_unpack unpacked
    rw [abs_signed_mul]
    exact settled.mul_lt.trans_le (two_zpow_le_iff.mpr (by omega))

/-- The mantissa of a positive double is in its word. -/
theorem Denotes.exists_settled (denotes : Denotes double rational) (positive : 0 < rational) :
    ∃ mantissa exponent, Settled mantissa exponent ∧ rational = mantissa * 2 ^ exponent ∧
      mantissa % 2 ^ 52 = fraction double.toBits.toBitVec := by
  obtain ⟨sign, -, rfl⟩ | ⟨sign, mantissa, exponent, nonzero, unpacked, rfl⟩ :=
    denotes.unpack_cases
  · exact absurd positive (lt_irrefl 0)
  · obtain ⟨settled, -, same⟩ := settled_of_unpack unpacked
    refine ⟨mantissa, exponent, settled, ?_, same⟩
    exact (abs_of_pos positive).symm.trans (abs_signed_mul sign mantissa exponent)

theorem Denotes.abs (denotes : Denotes double rational) : Denotes double.abs |rational| := by
  have bounded := denotes.abs_lt
  have stands := denotes.stands
  have magnitude : Stands double.toModel.unpack.abs |rational| := by
    generalize double.toModel.unpack = unpacked at stands
    cases stands with
    | zero =>
        rw [abs_zero]
        exact .zero .positive
    | finite sign positive settled =>
        rw [abs_signed_mul]
        exact_mod_cast Stands.finite .positive positive settled
  exact magnitude.denotes (by rwa [abs_abs])

/-! ## Order -/

theorem Settled.mul_lt_mul {other : Nat} {above : ℤ} (settled : Settled mantissa exponent)
    (otherSettled : Settled other above) (less : exponent < above) :
    (mantissa : ℚ) * 2 ^ exponent < other * 2 ^ above :=
  settled.mul_lt.trans_le <| (two_zpow_le_iff.mpr (by omega)).trans <|
    otherSettled.le_mul (settled.least.trans_lt less)

/-- Settled magnitudes are compared by their exponents first. -/
theorem Settled.compare_eq {other : Nat} {above : ℤ} (settled : Settled mantissa exponent)
    (otherSettled : Settled other above) :
    (compare exponent above).then (compare mantissa other) =
      compare ((mantissa : ℚ) * 2 ^ exponent) (other * 2 ^ above) := by
  rcases lt_trichotomy exponent above with less | rfl | greater
  · rw [compare_lt_iff_lt.mpr less, compare_lt_iff_lt.mpr (settled.mul_lt_mul otherSettled less)]
    rfl
  · rw [compare_eq_iff_eq.mpr rfl, Ordering.eq_then]
    have step := two_zpow_pos exponent
    rcases lt_trichotomy mantissa other with less | rfl | greater
    · rw [compare_lt_iff_lt.mpr less, compare_lt_iff_lt.mpr]
      exact mul_lt_mul_of_pos_right (by exact_mod_cast less) step
    · rw [compare_eq_iff_eq.mpr rfl, compare_eq_iff_eq.mpr rfl]
    · rw [compare_gt_iff_gt.mpr greater, compare_gt_iff_gt.mpr]
      exact mul_lt_mul_of_pos_right (by exact_mod_cast greater) step
  · rw [compare_gt_iff_gt.mpr greater,
      compare_gt_iff_gt.mpr (otherSettled.mul_lt_mul settled greater)]
    rfl

theorem compare_neg_neg (least greatest : ℚ) :
    compare (-least) (-greatest) = (compare least greatest).swap := by
  rcases lt_trichotomy least greatest with less | rfl | greater
  · rw [compare_lt_iff_lt.mpr less, compare_gt_iff_gt.mpr (neg_lt_neg less)]
    rfl
  · simp
  · rw [compare_gt_iff_gt.mpr greater, compare_lt_iff_lt.mpr (neg_lt_neg greater)]
    rfl

theorem Stands.compare_eq {first second : UnpackedFloat} {least greatest : ℚ}
    (firstStands : Stands first least) (secondStands : Stands second greatest) :
    first.compare second = some (compare least greatest) := by
  cases firstStands with
  | zero =>
      cases secondStands with
      | zero => rw [compare_eq_iff_eq.mpr rfl]; rfl
      | @finite sign _ exponent positive settled =>
          have magnitude := magnitude_pos positive exponent
          cases sign with
          | negative =>
              rw [signed, compare_gt_iff_gt.mpr (neg_lt_zero.mpr magnitude)]
              rfl
          | positive => rw [signed, compare_lt_iff_lt.mpr magnitude]; rfl
  | @finite sign _ exponent positive settled =>
      have magnitude := magnitude_pos positive exponent
      cases secondStands with
      | zero =>
          cases sign with
          | negative =>
              rw [signed, compare_lt_iff_lt.mpr (neg_lt_zero.mpr magnitude)]
              rfl
          | positive => rw [signed, compare_gt_iff_gt.mpr magnitude]; rfl
      | @finite other _ otherExponent otherPositive otherSettled =>
          have otherMagnitude := magnitude_pos otherPositive otherExponent
          cases sign with
          | negative =>
              cases other with
              | negative =>
                  rw [signed, signed, compare_neg_neg, ← settled.compare_eq otherSettled]
                  rfl
              | positive =>
                  rw [signed, signed, compare_lt_iff_lt.mpr (by linarith)]
                  rfl
          | positive =>
              cases other with
              | negative =>
                  rw [signed, signed, compare_gt_iff_gt.mpr (by linarith)]
                  rfl
              | positive =>
                  rw [signed, signed, ← settled.compare_eq otherSettled]
                  rfl

theorem le_iff_isLE (first second : Float) : first ≤ second ↔
    (first.toModel.unpack.compare second.toModel.unpack).any (·.isLE) = true :=
  decide_eq_true_iff

theorem lt_iff_eq_lt (first second : Float) : first < second ↔
    first.toModel.unpack.compare second.toModel.unpack = some .lt := by
  simp [LT.lt, Float.lt, Float.Model.lt, UnpackedFloat.lt]

theorem Denotes.compare_eq (denotes : Denotes double rational)
    (otherDenotes : Denotes other bound) :
    double.toModel.unpack.compare other.toModel.unpack = some (compare rational bound) :=
  denotes.stands.compare_eq otherDenotes.stands

/-- Comparing finite doubles is comparing what they denote. -/
theorem Denotes.le_iff (denotes : Denotes double rational) (otherDenotes : Denotes other bound) :
    double ≤ other ↔ rational ≤ bound := by
  rw [le_iff_isLE, denotes.compare_eq otherDenotes, Option.any_some,
    ← Ordering.ne_gt_iff_isLE]
  exact compare_le_iff_le

theorem Denotes.lt_iff (denotes : Denotes double rational) (otherDenotes : Denotes other bound) :
    double < other ↔ rational < bound := by
  rw [lt_iff_eq_lt, denotes.compare_eq otherDenotes, Option.some_inj]
  exact compare_lt_iff_lt

theorem isFinite_iff : double.isFinite = true ↔ ∃ rational, Denotes double rational := by
  rw [Float.isFinite, Float.Model.isFinite]
  simp only [Denotes]
  cases double.toModel.unpack <;> simp [UnpackedFloat.isFinite, rational?]

/-- What lies between finite doubles is finite. -/
theorem Denotes.isFinite_of_le_of_le {least greatest : Float} (denotes : Denotes least rational)
    (otherDenotes : Denotes greatest bound) (above : least ≤ double) (below : double ≤ greatest) :
    double.isFinite = true := by
  rw [le_iff_isLE] at above below
  have lower := denotes.stands
  have upper := otherDenotes.stands
  rw [Float.isFinite, Float.Model.isFinite]
  generalize double.toModel.unpack = unpacked at above below
  generalize least.toModel.unpack = first at above lower
  generalize greatest.toModel.unpack = last at below upper
  cases unpacked with
  | finite => rfl
  | zero => rfl
  | notANumber => cases lower <;> simp [UnpackedFloat.compare] at above
  | infinity sign =>
      cases sign with
      | negative => cases lower <;> simp [UnpackedFloat.compare] at above
      | positive => cases upper <;> simp [UnpackedFloat.compare] at below

end Double

end LoadAtlas
