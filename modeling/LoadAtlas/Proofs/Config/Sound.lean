import LoadAtlas.Atlas.Basic

/-!
# Sound configurations

What a configuration that passed its checks grants: the levels are in order and no deeper than
the cells go, merging starts below splitting, but not at nothing, and no period is empty.  An
atlas starts with a sound configuration.
-/

namespace LoadAtlas

namespace Config

/-- Nothing is wrong with a configuration. -/
def Sound (config : Config) : Prop :=
  config.fault? = none

variable {config : Config}

theorem check_eq_ok_iff {checked : Config} :
    config.check = .ok checked ↔ config.Sound ∧ config = checked := by
  cases found : config.fault? <;> simp [check, Sound, found]

theorem ite_some_eq_none_iff {Item : Type} {condition : Prop} [Decidable condition] {item : Item}
    {rest : Option Item} :
    (if condition then some item else rest) = none ↔ ¬ condition ∧ rest = none := by
  by_cases holds : condition <;> simp [holds]

theorem sound_iff : config.Sound ↔
    config.maxLevel ≤ deepestLevel ∧ config.topLevel ≤ config.maxLevel ∧
      config.mergeThreshold ≠ 0 ∧ config.mergeThreshold < config.splitThreshold ∧
      config.mergeInterval ≠ 0 ∧ config.rotationInterval ≠ 0 ∧ config.retention ≠ 0 ∧
      config.rotationInterval ≤ config.retention ∧
      1 ≤ config.bucketPrecision ∧ config.bucketPrecision ≤ longestPrecision := by
  simp only [Sound, fault?, ite_some_eq_none_iff, not_or, UInt64.not_lt, UInt64.not_le, ne_eq,
    and_true]

theorem toNat_pos {word : UInt64} (nonzero : word ≠ 0) : 0 < word.toNat :=
  Nat.pos_of_ne_zero fun zero => nonzero (UInt64.toNat_inj.mp zero)

namespace Sound

variable (sound : config.Sound)

include sound

theorem maxLevel_le_finestLevel : config.maxLevel.toNat ≤ CellId.finestLevel :=
  UInt64.le_iff_toNat_le.mp (sound_iff.mp sound).1

theorem topLevel_le_maxLevel : config.topLevel.toNat ≤ config.maxLevel.toNat :=
  UInt64.le_iff_toNat_le.mp (sound_iff.mp sound).2.1

theorem mergeThreshold_pos : 0 < config.mergeThreshold.toNat :=
  toNat_pos (sound_iff.mp sound).2.2.1

theorem mergeThreshold_lt_splitThreshold :
    config.mergeThreshold.toNat < config.splitThreshold.toNat :=
  UInt64.lt_iff_toNat_lt.mp (sound_iff.mp sound).2.2.2.1

theorem mergeInterval_pos : 0 < config.mergeInterval.toNat :=
  toNat_pos (sound_iff.mp sound).2.2.2.2.1

theorem rotationInterval_pos : 0 < config.rotationInterval.toNat :=
  toNat_pos (sound_iff.mp sound).2.2.2.2.2.1

theorem retention_pos : 0 < config.retention.toNat :=
  toNat_pos (sound_iff.mp sound).2.2.2.2.2.2.1

theorem bucketPrecision_pos : 1 ≤ config.bucketPrecision.toNat :=
  UInt64.le_iff_toNat_le.mp (sound_iff.mp sound).2.2.2.2.2.2.2.2.1

theorem bucketPrecision_le : config.bucketPrecision.toNat ≤ Bucket.longestKey :=
  UInt64.le_iff_toNat_le.mp (sound_iff.mp sound).2.2.2.2.2.2.2.2.2

end Sound

end Config

namespace Atlas

/-- An atlas starts with a sound configuration and nothing else. -/
theorem start_eq_ok_iff {config : Config} {atlas : Atlas} :
    start config = .ok atlas ↔ config.Sound ∧ atlas = { config } := by
  cases checked : config.check with
  | error fault =>
      have unsound : ¬ config.Sound := fun sound => by
        rw [Config.check_eq_ok_iff.mpr ⟨sound, rfl⟩] at checked
        simp at checked
      rw [start, checked]
      exact iff_of_false (fun started => by cases started) fun both => unsound both.1
  | ok same =>
      obtain ⟨sound, rfl⟩ := Config.check_eq_ok_iff.mp checked
      rw [start, checked]
      exact ⟨fun started => ⟨sound, (Except.ok.inj started).symm⟩,
        fun both => congrArg Except.ok both.2.symm⟩

end Atlas

end LoadAtlas
