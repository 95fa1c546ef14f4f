import LoadAtlas.Proofs.Atlas.Territory
import LoadAtlas.Proofs.Forest.Change

/-!
# Changes of a territory

Counting clients extends the forest of a territory by one leaf at most and then divides it.
Taking clients away only makes a leaf smaller, and a sweep only merges.  Between requests a
territory is quiet: no leaf waits for a split, and none needs one.
-/

namespace LoadAtlas

namespace Territory

variable {config : Config} {territory : Territory} {address : Bucket.Address} {amount : Nat}

/-- No leaf is marked, and none is too full. -/
structure Quiet (config : Config) (territory : Territory) : Prop where
  marked : territory.marked = ∅
  calm : territory.forest.Calm config.splitThreshold.toNat config.maxLevel.toNat

theorem quiet_empty (config : Config) : ({} : Territory).Quiet config :=
  ⟨rfl, Forest.calm_empty _ _⟩

/-! ## Counting clients -/

theorem WellFormed.extended_settle (sound : config.Sound) (wellFormed : territory.WellFormed config)
    (location : Location) : Forest.Extended territory.forest
      (territory.forest.settle location config).1 (territory.forest.settle location config).2 := by
  have ordered := sound.topLevel_le_maxLevel
  have bounded := sound.maxLevel_le_finestLevel
  cases found : territory.forest.locate? location config.topLevel.toNat config.maxLevel.toNat with
  | some leaf =>
      obtain ⟨_, cell, present, isLeaf⟩ :=
        (Forest.WellFormed.locate?_eq_some_iff wellFormed ordered bounded).mp found
      simp only [Forest.settle, found]
      exact .refl present isLeaf
  | none =>
      simp only [Forest.settle, found]
      exact Forest.WellFormed.extended_cover wellFormed ordered bounded location

theorem WellFormed.extended_place (sound : config.Sound) (wellFormed : territory.WellFormed config)
    (address : Bucket.Address) (amount : Nat) : Forest.Extended territory.forest
      (territory.place config address amount).territory.forest
      (territory.place config address amount).leaf :=
  (wellFormed.extended_settle sound address.location).trans
    (Forest.extended_addAt (wellFormed.settle sound address.location).leafAt address amount)

theorem overfull_of_place (territory : Territory)
    (overfull : (territory.place config address amount).territory.forest.Overfull
      config.splitThreshold.toNat config.maxLevel.toNat
      (territory.place config address amount).leaf) :
    (territory.place config address amount).overfull = true := by
  obtain ⟨cell, present, _, full, room⟩ := overfull
  have count : (territory.place config address amount).territory.forest.countAt
      (territory.place config address amount).leaf = cell.clientCount := by
    simp only [Forest.countAt, present]
  rw [← count] at full
  exact Bool.and_eq_true_iff.mpr ⟨decide_eq_true full, decide_eq_true room⟩

theorem insert_of_overfull (marked : territory.marked = ∅)
    (overfull : (territory.place config address amount).overfull = true) :
    territory.insert config address amount =
      ((territory.place config address amount).territory.mark
        (territory.place config address amount).leaf).1.splitMarked config
          (territory.place config address amount).leaf := by
  have isNew : ((territory.place config address amount).territory.mark
      (territory.place config address amount).leaf).2 = true := by
    simp [place, mark, marked]
  simp only [insert, overfull, isNew, ↓reduceIte]

theorem insert_of_not_overfull
    (fits : (territory.place config address amount).overfull = false) :
    territory.insert config address amount =
      ((territory.place config address amount).territory, 0) := by
  simp only [insert, fits, Bool.false_eq_true, ↓reduceIte]

namespace Quiet

variable (quiet : territory.Quiet config)

include quiet

theorem divided_insert (address : Bucket.Address) (amount : Nat) :
    Forest.Divided config.splitThreshold.toNat config.maxLevel.toNat
      (territory.place config address amount).territory.forest
      (territory.insert config address amount).1.forest
      (territory.insert config address amount).2 := by
  cases overfull : (territory.place config address amount).overfull with
  | true =>
      rw [insert_of_overfull quiet.marked overfull]
      exact Forest.divided_splitCascade _ _ _ _
  | false =>
      rw [insert_of_not_overfull overfull]
      exact .start

theorem length_branches_insert (sound : config.Sound) (wellFormed : territory.WellFormed config)
    (addressSound : address.Sound) (positive : 0 < amount) :
    (territory.insert config address amount).1.forest.branches.length =
      territory.forest.branches.length + (territory.insert config address amount).2 := by
  obtain ⟨placed, _⟩ := wellFormed.place sound addressSound positive
  rw [(quiet.divided_insert address amount).length_branches placed sound.maxLevel_le_finestLevel,
    (wellFormed.extended_place sound address amount).length_branches]

/-- The leaf that counts is the only one that can need a split, and its cascade leaves none. -/
theorem insert (sound : config.Sound) (wellFormed : territory.WellFormed config)
    (addressSound : address.Sound) (positive : 0 < amount) :
    (territory.insert config address amount).1.Quiet config := by
  obtain ⟨placed, _⟩ := wellFormed.place sound addressSound positive
  have extended := wellFormed.extended_place sound address amount
  have only (other : CellId)
      (overfull : (territory.place config address amount).territory.forest.Overfull
        config.splitThreshold.toNat config.maxLevel.toNat other) :
      other = (territory.place config address amount).leaf :=
    (extended.overfull overfull).resolve_right (quiet.calm other)
  cases overfull : (territory.place config address amount).overfull with
  | true =>
      rw [insert_of_overfull quiet.marked overfull]
      refine ⟨?_, Forest.calm_splitCascade sound.maxLevel_le_finestLevel only⟩
      simp only [splitMarked, mark, place, quiet.marked]
      apply Std.ExtTreeSet.ext_mem
      simp [Std.ExtTreeSet.mem_erase, Std.ExtTreeSet.mem_insert]
  | false =>
      rw [insert_of_not_overfull overfull]
      refine ⟨quiet.marked, fun other full => ?_⟩
      rw [only other full] at full
      rw [overfull_of_place territory full] at overfull
      exact Bool.noConfusion overfull

end Quiet

/-! ## Taking clients away -/

theorem remove_cases (sound : config.Sound) (wellFormed : territory.WellFormed config)
    (address : Bucket.Address) (amount : Nat) :
    (territory.remove config address amount).1 = territory ∨
      ∃ (leaf : CellId) (cell : Cell), territory.forest.cells[leaf]? = some cell ∧
        cell.isLeaf = true ∧ (territory.remove config address amount).1 =
          { territory with
            forest := territory.forest.setCell leaf
              { cell with tally := (cell.tally.remove address.key amount).1 } } := by
  cases found : territory.forest.locate? address.location config.topLevel.toNat
      config.maxLevel.toNat with
  | none => exact .inl (by simp only [remove, found])
  | some leaf =>
      obtain ⟨_, cell, present, isLeaf⟩ := (Forest.WellFormed.locate?_eq_some_iff wellFormed
        sound.topLevel_le_maxLevel sound.maxLevel_le_finestLevel).mp found
      exact .inr ⟨leaf, cell, present, isLeaf, by simp only [remove, found, present]⟩

theorem tops_remove (territory : Territory) (config : Config) (address : Bucket.Address)
    (amount : Nat) :
    (territory.remove config address amount).1.forest.tops = territory.forest.tops := by
  simp only [remove]
  split
  · rfl
  · split <;> rfl

theorem WellFormed.isSplit_remove (sound : config.Sound) (wellFormed : territory.WellFormed config)
    (address : Bucket.Address) (amount : Nat) (id : CellId) :
    (territory.remove config address amount).1.forest.isSplit id = territory.forest.isSplit id := by
  rcases remove_cases sound wellFormed address amount with
    same | ⟨leaf, cell, present, isLeaf, changed⟩
  · rw [same]
  · rw [changed]
    exact (Forest.extended_setCell present isLeaf _).isSplit_eq id

theorem WellFormed.length_branches_remove (sound : config.Sound)
    (wellFormed : territory.WellFormed config) (address : Bucket.Address) (amount : Nat) :
    (territory.remove config address amount).1.forest.branches.length =
      territory.forest.branches.length :=
  Forest.length_branches_congr (wellFormed.isSplit_remove sound address amount)

/-- Taking clients away makes no leaf too full. -/
theorem WellFormed.overfull_of_remove (sound : config.Sound)
    (wellFormed : territory.WellFormed config) {address : Bucket.Address} {amount : Nat}
    {id : CellId} (overfull : (territory.remove config address amount).1.forest.Overfull
      config.splitThreshold.toNat config.maxLevel.toNat id) :
    territory.forest.Overfull config.splitThreshold.toNat config.maxLevel.toNat id := by
  rcases remove_cases sound wellFormed address amount with
    same | ⟨leaf, cell, present, isLeaf, changed⟩
  · rwa [same] at overfull
  · rw [changed] at overfull
    rcases (Forest.extended_setCell present isLeaf _).overfull overfull with rfl | before
    · obtain ⟨found, foundPresent, _, full, room⟩ := overfull
      obtain rfl : { cell with tally := (cell.tally.remove address.key amount).1 } = found := by
        simpa using foundPresent
      have fewer := cell.tally.remove_fst_total address.key amount
      simp only [Cell.clientCount] at full
      exact ⟨cell, present, isLeaf, by rw [Cell.clientCount]; omega, room⟩
    · exact before

theorem WellFormed.marked_remove (sound : config.Sound) (wellFormed : territory.WellFormed config)
    (address : Bucket.Address) (amount : Nat) :
    (territory.remove config address amount).1.marked = territory.marked := by
  rcases remove_cases sound wellFormed address amount with same | ⟨_, _, _, _, changed⟩
  · rw [same]
  · rw [changed]

theorem Quiet.remove (quiet : territory.Quiet config) (sound : config.Sound)
    (wellFormed : territory.WellFormed config) (address : Bucket.Address) (amount : Nat) :
    (territory.remove config address amount).1.Quiet config where
  marked := (wellFormed.marked_remove sound address amount).trans quiet.marked
  calm id overfull := quiet.calm id (wellFormed.overfull_of_remove sound overfull)

/-! ## Sweeps -/

theorem forest_sweep (territory : Territory) (config : Config) :
    (territory.sweep config).1.forest =
      (territory.forest.mergeSweep config.mergeThreshold.toNat).1 := by
  by_cases idle : (territory.forest.mergeSweep config.mergeThreshold.toNat).2.isEmpty = true
  · simp only [sweep, idle, ↓reduceIte]
    exact (Forest.mergeSweep_fst_of_snd_eq_nil (List.isEmpty_iff.mp idle)).symm
  · simp only [sweep, idle, Bool.false_eq_true, ↓reduceIte]

theorem sweep_snd (territory : Territory) (config : Config) : (territory.sweep config).2 =
    (territory.forest.mergeSweep config.mergeThreshold.toNat).2.length := by
  by_cases idle : (territory.forest.mergeSweep config.mergeThreshold.toNat).2.isEmpty = true
  · simp [sweep, List.isEmpty_iff.mp idle]
  · simp only [sweep, idle, Bool.false_eq_true, ↓reduceIte]

theorem WellFormed.swept_sweep (wellFormed : territory.WellFormed config) :
    Forest.Swept config.mergeThreshold.toNat territory.forest (territory.sweep config).1.forest
      (territory.forest.mergeSweep config.mergeThreshold.toNat).2 := by
  rw [forest_sweep]
  exact Forest.WellFormed.swept_mergeSweep wellFormed config.mergeThreshold.toNat

theorem WellFormed.length_branches_sweep (wellFormed : territory.WellFormed config) :
    (territory.sweep config).1.forest.branches.length + (territory.sweep config).2 =
      territory.forest.branches.length := by
  rw [sweep_snd]
  exact wellFormed.swept_sweep.length_branches wellFormed

/-- A sweep marks no leaf. -/
theorem marked_of_sweep {id : CellId} (member : id ∈ (territory.sweep config).1.marked) :
    id ∈ territory.marked := by
  by_cases idle : (territory.forest.mergeSweep config.mergeThreshold.toNat).2.isEmpty = true
  · simpa only [sweep, idle, ↓reduceIte] using member
  · simp only [sweep, idle, Bool.false_eq_true, ↓reduceIte] at member
    exact Std.ExtTreeSet.mem_of_mem_filter member

theorem Quiet.sweep (quiet : territory.Quiet config) (sound : config.Sound)
    (wellFormed : territory.WellFormed config) : (territory.sweep config).1.Quiet config where
  marked := by
    apply Std.ExtTreeSet.eq_empty_iff_forall_not_mem.mpr
    intro id member
    have earlier := marked_of_sweep member
    rw [quiet.marked] at earlier
    exact Std.ExtTreeSet.not_mem_empty earlier
  calm := wellFormed.swept_sweep.calm (Nat.le_of_lt sound.mergeThreshold_lt_splitThreshold)
    quiet.calm

end Territory

end LoadAtlas
