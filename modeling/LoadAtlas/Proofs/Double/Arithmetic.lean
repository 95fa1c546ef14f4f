import LoadAtlas.Proofs.Double.Rounding

/-!
# Arithmetic with doubles

Adding, subtracting, multiplying and dividing finite doubles gives the double nearest to the exact
result, unless that is too great.  An exact result that fits is kept, so that a computation of
which every step fits is a computation with rationals.
-/

namespace LoadAtlas

namespace Double

open Float.Model (Format UnpackedFloat totalExponent)
open Float.Model.UnpackedFloat

/-! ## Exact results as mantissas with exponents -/

theorem decreaseExponent_fst_mul (mantissa : Nat) (exponent target : ℤ) :
    ((decreaseExponent mantissa exponent target).1 : ℚ) *
      2 ^ (decreaseExponent mantissa exponent target).2 = mantissa * 2 ^ exponent := by
  simp only [decreaseExponent, Nat.shiftLeft_eq]
  generalize (exponent - target).toNat = places
  have split : exponent = places + (exponent - places) := by ring
  nth_rewrite 2 [split]
  rw [two_zpow_add, zpow_natCast]
  push_cast
  ring

theorem decreaseExponent_snd (mantissa : Nat) (exponent target : ℤ) :
    (decreaseExponent mantissa exponent target).2 = min exponent target := by
  simp only [decreaseExponent]
  omega

theorem holds_exact (mantissa : Nat) : Holds (.ofMantissaAndAccuracy mantissa .exact) mantissa :=
  sub_self _

theorem holds_accuracyOfFraction (mantissa : Nat) {numerator denominator : Nat}
    (proper : numerator < denominator) :
    Holds (.ofMantissaAndAccuracy mantissa (accuracyOfFraction numerator denominator))
      (mantissa + numerator / denominator) := by
  have positive : (0 : ℚ) < denominator := by exact_mod_cast (Nat.zero_le _).trans_lt proper
  rw [accuracyOfFraction]
  split
  · next nothing => simp [nothing, Holds, Cut, ExtendedMantissa.ofMantissaAndAccuracy]
  · next something =>
      have some : (0 : ℚ) < numerator := by exact_mod_cast Nat.pos_of_ne_zero something
      rcases lt_trichotomy (2 * numerator) denominator with less | same | greater
      · have half : 2 * (numerator : ℚ) < denominator := by exact_mod_cast less
        rw [compare_lt_iff_lt.mpr less]
        simp only [Holds, Cut, ExtendedMantissa.ofMantissaAndAccuracy, add_sub_cancel_left]
        exact ⟨by positivity, by rwa [← mul_div_assoc, div_lt_one positive]⟩
      · have half : 2 * (numerator : ℚ) = denominator := by exact_mod_cast same
        rw [compare_eq_iff_eq.mpr same]
        simp only [Holds, Cut, ExtendedMantissa.ofMantissaAndAccuracy, add_sub_cancel_left]
        rw [← mul_div_assoc, half, div_self positive.ne']
      · have half : (denominator : ℚ) < 2 * numerator := by exact_mod_cast greater
        have whole : (numerator : ℚ) < denominator := by exact_mod_cast proper
        rw [compare_gt_iff_gt.mpr greater]
        simp only [Holds, Cut, ExtendedMantissa.ofMantissaAndAccuracy, add_sub_cancel_left]
        exact ⟨by rwa [← mul_div_assoc, one_lt_div positive], (div_lt_one positive).mpr whole⟩

/-- A magnitude with its sign, counted in smaller steps. -/
theorem apply_decreaseExponent_mul (sign : Sign) (mantissa : Nat) {exponent target : ℤ}
    (finer : target ≤ exponent) :
    ((sign.apply (decreaseExponent mantissa exponent target).1 : ℤ) : ℚ) * 2 ^ target =
      signed sign (mantissa * 2 ^ exponent) := by
  have level := decreaseExponent_snd mantissa exponent target
  rw [← decreaseExponent_fst_mul mantissa exponent target, level, min_eq_right finer]
  cases sign <;> simp [signed, Sign.apply]

/-- A whole number of steps is rounded, however great the steps are. -/
theorem rounds_round (sign : Sign) {mantissa : Nat} (positive : 0 < mantissa) (exponent : ℤ) :
    Rounds (UnpackedFloat.round Format.binary64 sign mantissa exponent)
      (signed sign (mantissa * 2 ^ exponent)) := by
  have target : Format.binary64.targetExponent (totalExponent mantissa exponent) =
      grid (mantissa * 2 ^ exponent) :=
    targetExponent_eq_grid_of_pos positive le_rfl (lt_add_one _)
  have same := decreaseExponent_fst_mul mantissa exponent (grid (mantissa * 2 ^ exponent))
  have level := decreaseExponent_snd mantissa exponent (grid (mantissa * 2 ^ exponent))
  rw [UnpackedFloat.round, target]
  generalize decreaseExponent mantissa exponent (grid (mantissa * 2 ^ exponent)) = lowered at *
  obtain ⟨steps, lower⟩ := lowered
  dsimp only at same level ⊢
  rw [← same]
  apply rounds_roundWithAccuracy sign (holds_exact steps)
  · exact pos_of_mul_pos_left (same ▸ magnitude_pos positive exponent) (two_zpow_pos lower).le
  · rw [same, level]
    exact min_le_right _ _

theorem rounds_normalize (steps exponent : ℤ) (zeroSign : Sign) :
    Rounds (UnpackedFloat.normalize Format.binary64 steps exponent zeroSign)
      (steps * 2 ^ exponent) := by
  rw [UnpackedFloat.normalize]
  rcases lt_trichotomy steps 0 with negative | rfl | positive
  · have whole : ((-steps).toNat : ℚ) = -steps := by
      exact_mod_cast Int.toNat_of_nonneg (by omega : 0 ≤ -steps)
    have rounds := rounds_round .negative (by omega : 0 < (-steps).toNat) exponent
    rw [signed, whole, neg_mul, neg_neg] at rounds
    rwa [compare_lt_iff_lt.mpr negative]
  · rw [Int.cast_zero, zero_mul]
    exact (Stands.zero zeroSign).rounds
  · have whole : (steps.toNat : ℚ) = steps := by
      exact_mod_cast Int.toNat_of_nonneg positive.le
    have rounds := rounds_round .positive (by omega : 0 < steps.toNat) exponent
    rw [signed, whole] at rounds
    rwa [compare_gt_iff_gt.mpr positive]

/-! ## Operations -/

section Operations

variable {first second : UnpackedFloat} {left right : ℚ}

theorem Stands.neg (stands : Stands first left) : Stands first.neg (-left) := by
  cases stands with
  | zero sign =>
      rw [neg_zero]
      exact .zero (-sign)
  | @finite sign mantissa exponent positive settled =>
      have opposite : -signed sign (mantissa * 2 ^ exponent) =
          signed (-sign) (mantissa * 2 ^ exponent) := by
        cases sign
        · exact neg_neg _
        · rfl
      rw [opposite]
      exact .finite (-sign) positive settled

theorem Stands.add (stands : Stands first left) (others : Stands second right) :
    Rounds (first.add Format.binary64 second) (left + right) := by
  have whole := stands
  cases stands with
  | zero sign =>
      rw [zero_add]
      have other := others
      cases others with
      | zero otherSign =>
          rw [UnpackedFloat.add]
          split <;> exact (Stands.zero _).rounds
      | finite => exact other.rounds
  | @finite sign mantissa exponent positive settled =>
      cases others with
      | zero =>
          rw [add_zero]
          exact whole.rounds
      | @finite otherSign otherMantissa otherExponent otherPositive otherSettled =>
          rw [← apply_decreaseExponent_mul sign mantissa (min_le_left exponent otherExponent),
            ← apply_decreaseExponent_mul otherSign otherMantissa
              (min_le_right exponent otherExponent), ← add_mul, ← Int.cast_add]
          exact rounds_normalize _ _ .positive

theorem sub_eq_add (first second : UnpackedFloat) :
    first.sub Format.binary64 second = first.add Format.binary64 second.neg := by
  cases first with
  | notANumber => rfl
  | infinity => cases second <;> rfl
  | zero => cases second <;> rfl
  | finite =>
      cases second with
      | finite other =>
          simp only [UnpackedFloat.sub, UnpackedFloat.add, UnpackedFloat.neg]
          congr 1
          cases other
          · exact sub_neg_eq_add _ _
          · exact Int.sub_eq_add_neg
      | _ => rfl

theorem Stands.sub (stands : Stands first left) (others : Stands second right) :
    Rounds (first.sub Format.binary64 second) (left - right) := by
  rw [sub_eq_add, sub_eq_add_neg]
  exact stands.add others.neg

theorem signed_mul_signed (sign other : Sign) (magnitude otherMagnitude : ℚ) :
    signed sign magnitude * signed other otherMagnitude =
      signed (sign * other) (magnitude * otherMagnitude) := by
  cases sign <;> cases other
  · exact neg_mul_neg _ _
  · exact neg_mul _ _
  · exact mul_neg _ _
  · rfl

/-- The product of settled mantissas has bits enough. -/
theorem Settled.le_grid_mul {mantissa other : Nat} {exponent otherExponent : ℤ}
    (settled : Settled mantissa exponent) (otherSettled : Settled other otherExponent)
    (positive : 0 < mantissa) (otherPositive : 0 < other) :
    exponent + otherExponent ≤
      grid ((mantissa * other : ℕ) * 2 ^ (exponent + otherExponent)) := by
  by_cases full : 2 ^ 52 ≤ mantissa * other
  · apply le_grid_of_le
    rw [abs_of_nonneg (mul_nonneg (Nat.cast_nonneg _) (two_zpow_pos _).le), add_comm,
      two_zpow_add]
    refine mul_le_mul_of_nonneg_right ?_ (two_zpow_pos _).le
    exact_mod_cast full
  · have first := settled.full.resolve_left fun enough =>
      full (enough.trans (Nat.le_mul_of_pos_right mantissa otherPositive))
    have second := otherSettled.full.resolve_left fun enough =>
      full (enough.trans (Nat.le_mul_of_pos_left other positive))
    have floor := le_grid ((mantissa * other : ℕ) * 2 ^ (exponent + otherExponent))
    omega

theorem Stands.mul (stands : Stands first left) (others : Stands second right) :
    Rounds (first.mul Format.binary64 second) (left * right) := by
  cases stands with
  | zero sign =>
      rw [zero_mul]
      cases others <;> exact (Stands.zero _).rounds
  | @finite sign mantissa exponent positive settled =>
      cases others with
      | zero other =>
          rw [mul_zero]
          exact (Stands.zero _).rounds
      | @finite other otherMantissa otherExponent otherPositive otherSettled =>
          have product : (mantissa : ℚ) * 2 ^ exponent * (otherMantissa * 2 ^ otherExponent) =
              (mantissa * otherMantissa : ℕ) * 2 ^ (exponent + otherExponent) := by
            rw [two_zpow_add]
            push_cast
            ring
          rw [signed_mul_signed, product]
          apply rounds_roundWithAccuracy _ (holds_exact _)
          · exact_mod_cast Nat.mul_pos positive otherPositive
          · exact settled.le_grid_mul otherSettled positive otherPositive

theorem targetExponent_le_grid {mantissa other : Nat} (positive : 0 < mantissa)
    (otherPositive : 0 < other) (exponent otherExponent : ℤ) :
    Format.binary64.targetExponent
      (totalExponent mantissa exponent - totalExponent other otherExponent) ≤
        grid (mantissa * 2 ^ exponent / (other * 2 ^ otherExponent)) := by
  have dividend := two_zpow_log2_le positive exponent
  have divisor : (other : ℚ) * 2 ^ otherExponent ≤ 2 ^ (other.log2 + otherExponent + 1) :=
    (mul_le_mul_of_nonneg_right (by linarith) (two_zpow_pos _).le).trans
      (succ_mul_le_two_zpow_log2 other otherExponent)
  have positiveDivisor := magnitude_pos otherPositive otherExponent
  rw [targetExponent_eq]
  apply max_le _ (le_grid _)
  apply le_grid_of_le
  rw [abs_of_pos (div_pos (magnitude_pos positive exponent) positiveDivisor),
    le_div_iff₀ positiveDivisor]
  refine le_trans ?_ dividend
  refine (mul_le_mul_of_nonneg_left divisor (two_zpow_pos _).le).trans_eq ?_
  rw [← two_zpow_add, totalExponent, totalExponent]
  congr 1
  ring

/-- A quotient is taken with bits enough, and what remains is not forgotten. -/
theorem rounds_divCore (sign : Sign) {mantissa other : Nat} (positive : 0 < mantissa)
    (otherPositive : 0 < other) (exponent otherExponent : ℤ) :
    Rounds (roundWithAccuracy Format.binary64 sign
      (divCore Format.binary64 mantissa exponent other otherExponent).1
      (divCore Format.binary64 mantissa exponent other otherExponent).2.1
      (divCore Format.binary64 mantissa exponent other otherExponent).2.2)
      (signed sign (mantissa * 2 ^ exponent / (other * 2 ^ otherExponent))) := by
  have divisor : (0 : ℚ) < other := by exact_mod_cast otherPositive
  rw [divCore]
  dsimp only
  generalize targetSame : min (exponent - otherExponent) (Format.binary64.targetExponent
    (totalExponent mantissa exponent - totalExponent other otherExponent)) = target
  have lower : target ≤ exponent - otherExponent := targetSame ▸ min_le_left _ _
  obtain ⟨places, split⟩ := Int.le.dest lower
  rw [← split, add_sub_cancel_left, Int.toNat_natCast, Nat.shiftLeft_eq]
  have quotient : ((mantissa * 2 ^ places / other : ℕ) : ℚ) +
      (mantissa * 2 ^ places % other : ℕ) / other = (mantissa * 2 ^ places : ℕ) / other := by
    rw [eq_div_iff divisor.ne', add_mul, div_mul_cancel₀ _ divisor.ne']
    exact_mod_cast Nat.div_add_mod' _ _
  have exact : ((mantissa * 2 ^ places : ℕ) : ℚ) / other * 2 ^ target =
      mantissa * 2 ^ exponent / (other * 2 ^ otherExponent) := by
    have level : exponent = places + target + otherExponent := by omega
    rw [level, two_zpow_add, two_zpow_add, zpow_natCast]
    have step := two_zpow_pos otherExponent
    push_cast
    field_simp
  rw [← exact, ← quotient]
  apply rounds_roundWithAccuracy sign (holds_accuracyOfFraction _ (Nat.mod_lt _ otherPositive))
  · rw [quotient]
    exact div_pos (by exact_mod_cast Nat.mul_pos positive (Nat.two_pow_pos places)) divisor
  · rw [quotient, exact, ← targetSame]
    exact (min_le_right _ _).trans (targetExponent_le_grid positive otherPositive _ _)

theorem Stands.div (stands : Stands first left) (others : Stands second right)
    (nonzero : right ≠ 0) : Rounds (first.div Format.binary64 second) (left / right) := by
  cases others with
  | zero => exact absurd rfl nonzero
  | @finite other otherMantissa otherExponent otherPositive otherSettled =>
      cases stands with
      | zero sign =>
          rw [zero_div]
          exact (Stands.zero _).rounds
      | @finite sign mantissa exponent positive settled =>
          have quotient : signed sign (mantissa * 2 ^ exponent) /
              signed other (otherMantissa * 2 ^ otherExponent) = signed (sign / other)
                (mantissa * 2 ^ exponent / (otherMantissa * 2 ^ otherExponent)) := by
            cases sign <;> cases other
            · exact neg_div_neg_eq _ _
            · exact neg_div _ _
            · exact div_neg _
            · rfl
          rw [quotient]
          exact rounds_divCore _ positive otherPositive exponent otherExponent

end Operations

/-! ## Results that are not too great -/

variable {unpacked : UnpackedFloat} {exact : ℚ}

/-- What is rounded below the greatest doubles is a finite double. -/
theorem Rounds.exists_denotes (rounds : Rounds unpacked exact)
    (small : |exact| ≤ 2 ^ (1023 : ℤ)) :
    ∃ rounded, Denotes (.ofModel (.pack unpacked)) rounded ∧ Nearest exact rounded := by
  obtain ⟨rounded, stands, nearest⟩ := rounds
  have bounded := nearest.abs_le_of_abs_le (fits_two_zpow (by norm_num)) small
  exact ⟨rounded, stands.denotes (bounded.trans_lt (two_zpow_lt_iff.mpr (by norm_num))), nearest⟩

/-- A rational that a double denotes. -/
structure Representable (exact : ℚ) : Prop where
  fits : Fits exact
  small : |exact| < 2 ^ (1024 : ℤ)

/-- A result that a double denotes is exact. -/
theorem Rounds.denotes (rounds : Rounds unpacked exact) (representable : Representable exact) :
    Denotes (.ofModel (.pack unpacked)) exact := by
  obtain ⟨rounded, stands, nearest⟩ := rounds
  rw [nearest.eq_of_fits representable.fits] at stands
  exact stands.denotes representable.small

section

variable {first second : Float} {left right : ℚ} (denotes : Denotes first left)
  (others : Denotes second right)

include denotes others

theorem Denotes.exists_add (small : |left + right| ≤ 2 ^ (1023 : ℤ)) :
    ∃ rounded, Denotes (first + second) rounded ∧ Nearest (left + right) rounded :=
  (denotes.stands.add others.stands).exists_denotes small

theorem Denotes.exists_mul (small : |left * right| ≤ 2 ^ (1023 : ℤ)) :
    ∃ rounded, Denotes (first * second) rounded ∧ Nearest (left * right) rounded :=
  (denotes.stands.mul others.stands).exists_denotes small

theorem Denotes.add (representable : Representable (left + right)) :
    Denotes (first + second) (left + right) :=
  (denotes.stands.add others.stands).denotes representable

theorem Denotes.sub (representable : Representable (left - right)) :
    Denotes (first - second) (left - right) :=
  (denotes.stands.sub others.stands).denotes representable

theorem Denotes.mul (representable : Representable (left * right)) :
    Denotes (first * second) (left * right) :=
  (denotes.stands.mul others.stands).denotes representable

theorem Denotes.div (nonzero : right ≠ 0) (representable : Representable (left / right)) :
    Denotes (first / second) (left / right) :=
  (denotes.stands.div others.stands nonzero).denotes representable

end

/-! ## Fixed point -/

section FixedPoint

variable {first second : Float} {steps others : ℤ} {places : ℕ}

theorem representable_steps (least : -2 ^ 53 ≤ steps) (greatest : steps ≤ 2 ^ 53)
    (shallow : places ≤ 1074) : Representable (steps / 2 ^ places) := by
  have few := abs_le.mpr ⟨least, greatest⟩
  refine ⟨fits_div_two_pow few shallow, ?_⟩
  have parts : (1 : ℚ) ≤ 2 ^ places := one_le_pow₀ (by norm_num)
  calc |(steps : ℚ) / 2 ^ places| = |(steps : ℚ)| / 2 ^ places := by
        rw [abs_div, abs_of_pos (one_pos.trans_le parts)]
    _ ≤ |(steps : ℚ)| := div_le_self (abs_nonneg _) parts
    _ ≤ 2 ^ (53 : ℤ) := by exact_mod_cast few
    _ < 2 ^ (1024 : ℤ) := two_zpow_lt_iff.mpr (by norm_num)

variable (shallow : places ≤ 1074)

include shallow

theorem Denotes.add_steps (denotes : Denotes first (steps / 2 ^ places))
    (otherDenotes : Denotes second (others / 2 ^ places)) (least : -2 ^ 53 ≤ steps + others)
    (greatest : steps + others ≤ 2 ^ 53) :
    Denotes (first + second) ((steps + others : ℤ) / 2 ^ places) := by
  have representable := representable_steps least greatest shallow
  rw [Int.cast_add, add_div] at representable ⊢
  exact denotes.add otherDenotes representable

theorem Denotes.sub_steps (denotes : Denotes first (steps / 2 ^ places))
    (otherDenotes : Denotes second (others / 2 ^ places)) (least : -2 ^ 53 ≤ steps - others)
    (greatest : steps - others ≤ 2 ^ 53) :
    Denotes (first - second) ((steps - others : ℤ) / 2 ^ places) := by
  have representable := representable_steps least greatest shallow
  rw [Int.cast_sub, sub_div] at representable ⊢
  exact denotes.sub otherDenotes representable

theorem Denotes.mul_steps {factor : ℤ} (denotes : Denotes first factor)
    (otherDenotes : Denotes second (steps / 2 ^ places)) (least : -2 ^ 53 ≤ factor * steps)
    (greatest : factor * steps ≤ 2 ^ 53) :
    Denotes (first * second) ((factor * steps : ℤ) / 2 ^ places) := by
  have representable := representable_steps least greatest shallow
  rw [Int.cast_mul, mul_div_assoc] at representable ⊢
  exact denotes.mul otherDenotes representable

theorem Denotes.half_steps (denotes : Denotes first ((2 * steps : ℤ) / 2 ^ places))
    (least : -2 ^ 53 ≤ steps) (greatest : steps ≤ 2 ^ 53) :
    Denotes (first / 2.0) (steps / 2 ^ places) := by
  have two : Denotes 2.0 2 := by decide +kernel
  have representable := representable_steps least greatest shallow
  have half : ((2 * steps : ℤ) : ℚ) / 2 ^ places / 2 = steps / 2 ^ places := by
    push_cast
    ring
  rw [← half] at representable ⊢
  exact denotes.div two (by norm_num) representable

end FixedPoint

end Double

end LoadAtlas
