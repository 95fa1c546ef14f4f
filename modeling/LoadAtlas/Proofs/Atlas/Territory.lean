import LoadAtlas.Proofs.Config.Sound
import LoadAtlas.Proofs.Forest.Cascade
import LoadAtlas.Proofs.Forest.Sweep

/-!
# Territories that count

Counting clients, taking them away and sweeping keep the forest of a territory well formed.
Counting adds to the weight of the forest what is counted, and taking away takes off what was
taken: as much as was asked for, or all that the whole forest holds of the key.  A bucket lies
at the representative location of its key, so the leaf that the descent finds holds all there
is of the key.
-/

namespace LoadAtlas

namespace Bucket

/-- An address names the representative location of its key. -/
def Address.Sound (address : Address) : Prop :=
  representative address.key = .ok address.location

theorem Sound.address {key : String} {bucket : Bucket} (sound : bucket.Sound key) :
    Address.Sound ⟨key, bucket.location⟩ :=
  sound.located

theorem sound_of_address {location : Location} {precision : Nat} {address : Address}
    (accepted : Bucket.address location precision = .ok address) : address.Sound := by
  cases encoded : encode location precision with
  | error fault => simp [Bucket.address, encoded, Except.mapError, bind, Except.bind] at accepted
  | ok key =>
      cases located : representative key with
      | error fault =>
          simp [Bucket.address, encoded, located, Except.mapError, bind, Except.bind] at accepted
      | ok center =>
          have same : address = ⟨key, center⟩ := by
            simpa [Bucket.address, encoded, located, Except.mapError, bind, Except.bind, pure,
              Except.pure, eq_comm] using accepted
          rw [same]
          exact located

end Bucket

namespace Forest

variable {topLevel maxLevel : Nat} {forest : Forest} {leaf : CellId} {cell : Cell}
  {address : Bucket.Address} {amount : Nat}

namespace WellFormed

/-- All clients with a key are in the leaf that its location falls into. -/
theorem countOf_eq (wellFormed : forest.WellFormed topLevel maxLevel) (sound : address.Sound)
    (leafAt : forest.LeafAt address.location leaf) (present : forest.cells[leaf]? = some cell) :
    forest.countOf address.key = cell.tally.buckets.countOf address.key := by
  rw [countOf, Table.sum_eq_measureAt _ leaf]
  · simp [Table.measureAt, present]
  · intro other found foundPresent different
    apply BucketTable.countOf_of_absent
    by_contra held
    obtain ⟨bucket, inFound⟩ := Option.ne_none_iff_exists'.mp held
    have foundSound := wellFormed.sound foundPresent
    have located := (foundSound.tally.buckets address.key bucket inFound).located
    have falls := foundSound.placed address.key bucket inFound
    rw [sound] at located
    rw [← Except.ok.inj located] at falls
    exact different (wellFormed.leafAt_unique
      ⟨falls, found, foundPresent, wellFormed.isLeaf_of_bucket foundPresent inFound⟩ leafAt)

/-- A key whose location falls into no leaf has no clients. -/
theorem countOf_eq_zero (wellFormed : forest.WellFormed topLevel maxLevel) (sound : address.Sound)
    (uncovered : ∀ leaf, ¬ forest.LeafAt address.location leaf) :
    forest.countOf address.key = 0 := by
  apply List.sum_eq_zero
  intro count member
  obtain ⟨⟨id, found⟩, entry, rfl⟩ := List.mem_map.mp member
  have foundPresent := Std.ExtTreeMap.mem_toList_iff_getElem?_eq_some.mp entry
  apply BucketTable.countOf_of_absent
  by_contra held
  obtain ⟨bucket, inFound⟩ := Option.ne_none_iff_exists'.mp held
  have foundSound := wellFormed.sound foundPresent
  have located := (foundSound.tally.buckets address.key bucket inFound).located
  have falls := foundSound.placed address.key bucket inFound
  rw [sound] at located
  rw [← Except.ok.inj located] at falls
  exact uncovered id ⟨falls, found, foundPresent, wellFormed.isLeaf_of_bucket foundPresent inFound⟩

/-- A bucket of the location added to a leaf that the location falls into. -/
theorem addAt (wellFormed : forest.WellFormed topLevel maxLevel) (sound : address.Sound)
    (leafAt : forest.LeafAt address.location leaf) (positive : 0 < amount) :
    (forest.addAt leaf address amount).WellFormed topLevel maxLevel ∧
      ∀ weight, (forest.addAt leaf address amount).weigh weight =
        forest.weigh weight + weight address.key * amount := by
  obtain ⟨falls, cell, present, isLeaf⟩ := leafAt
  have cellSound := wellFormed.sound present
  have added : forest.addAt leaf address amount = forest.setCell leaf
      { cell with tally := cell.tally.add address.key address.location amount } := by
    simp [Forest.addAt, present]
  rw [added]
  constructor
  · refine wellFormed.retally present isLeaf (cellSound.tally.add positive sound) ?_
    intro key bucket held
    rcases Tally.getElem?_of_add held with sameLocation | ⟨old, before, sameLocation⟩
    · rw [sameLocation]
      exact falls
    · rw [sameLocation]
      exact cellSound.placed key old before
  · intro weight
    have changed := weigh_setCell weight present
      { cell with tally := cell.tally.add address.key address.location amount }
    rw [Tally.buckets_add, BucketTable.weigh_add] at changed
    omega

end WellFormed

end Forest

namespace Territory

variable {config : Config} {territory : Territory} {address : Bucket.Address} {amount : Nat}

/-- The forest of a territory is well formed between the levels of a configuration. -/
def WellFormed (config : Config) (territory : Territory) : Prop :=
  territory.forest.WellFormed config.topLevel.toNat config.maxLevel.toNat

theorem wellFormed_empty (config : Config) : ({} : Territory).WellFormed config :=
  Forest.wellFormed_empty _ _

/-- Whether a location is covered beforehand makes no difference to how it is counted. -/
theorem WellFormed.place_covering (wellFormed : territory.WellFormed config)
    (ordered : config.topLevel.toNat ≤ config.maxLevel.toNat)
    (bounded : config.maxLevel.toNat ≤ CellId.finestLevel) (address : Bucket.Address)
    (amount : Nat) : (territory.covering config address.location).place config address amount =
      territory.place config address amount := by
  cases found : territory.forest.locate? address.location config.topLevel.toNat
      config.maxLevel.toNat with
  | some leaf => rw [covering, Forest.cover_of_locate? found]
  | none =>
      have covered := Forest.WellFormed.cover wellFormed ordered bounded address.location
      have foundNow := (covered.kept.wellFormed.locate?_eq_some_iff ordered bounded).mpr
        covered.leafAt
      simp only [place, covering, Forest.settle, found, foundNow]

section

variable (sound : config.Sound) (wellFormed : territory.WellFormed config)

include sound wellFormed

theorem WellFormed.settle (location : Location) :
    Forest.Covered config.topLevel.toNat config.maxLevel.toNat location territory.forest
      (territory.forest.settle location config) := by
  cases found : territory.forest.locate? location config.topLevel.toNat config.maxLevel.toNat with
  | some leaf =>
      have leafAt := (Forest.WellFormed.locate?_eq_some_iff wellFormed sound.topLevel_le_maxLevel
        sound.maxLevel_le_finestLevel).mp found
      simp only [Forest.settle, found]
      exact ⟨.refl wellFormed, leafAt⟩
  | none =>
      simp only [Forest.settle, found]
      exact Forest.WellFormed.cover wellFormed sound.topLevel_le_maxLevel
        sound.maxLevel_le_finestLevel location

/-- Counting clients adds their weight and keeps the forest well formed. -/
theorem WellFormed.place (addressSound : address.Sound) (positive : 0 < amount) :
    (territory.place config address amount).territory.WellFormed config ∧
      ∀ weight, (territory.place config address amount).territory.forest.weigh weight =
        territory.forest.weigh weight + weight address.key * amount := by
  have covered := wellFormed.settle sound address.location
  obtain ⟨added, weighed⟩ :=
    covered.kept.wellFormed.addAt addressSound covered.leafAt positive
  exact ⟨added, fun weight => by rw [← covered.kept.weigh weight]; exact weighed weight⟩

theorem WellFormed.splitMarked (leaf : CellId) :
    (territory.splitMarked config leaf).1.WellFormed config ∧
      ∀ weight, (territory.splitMarked config leaf).1.forest.weigh weight =
        territory.forest.weigh weight := by
  have kept := Forest.WellFormed.splitCascade wellFormed sound.maxLevel_le_finestLevel leaf
    config.splitThreshold.toNat
  exact ⟨kept.wellFormed, kept.weigh⟩

/-- Counting clients, with the split that it may set off, adds their weight. -/
theorem WellFormed.insert (addressSound : address.Sound) (positive : 0 < amount) :
    (territory.insert config address amount).1.WellFormed config ∧
      ∀ weight, (territory.insert config address amount).1.forest.weigh weight =
        territory.forest.weigh weight + weight address.key * amount := by
  obtain ⟨placed, weighed⟩ := wellFormed.place sound addressSound positive
  by_cases overfull : (territory.place config address amount).overfull = true
  · have marked : ((territory.place config address amount).territory.mark
        (territory.place config address amount).leaf).1.WellFormed config := placed
    obtain ⟨divided, kept⟩ :=
      marked.splitMarked sound (territory.place config address amount).leaf
    by_cases isNew : ((territory.place config address amount).territory.mark
        (territory.place config address amount).leaf).2 = true
    · simp only [Territory.insert, overfull, isNew, ↓reduceIte]
      exact ⟨divided, fun weight => (kept weight).trans (weighed weight)⟩
    · simp only [Territory.insert, overfull, isNew, Bool.false_eq_true, ↓reduceIte]
      exact ⟨marked, weighed⟩
  · simp only [Territory.insert, overfull, Bool.false_eq_true, ↓reduceIte]
    exact ⟨placed, weighed⟩

/-- Taking clients away takes off as many as there are, up to the amount asked for. -/
theorem WellFormed.remove (addressSound : address.Sound) (amount : Nat) :
    (territory.remove config address amount).1.WellFormed config ∧
      (∀ weight, (territory.remove config address amount).1.forest.weigh weight +
        weight address.key * (territory.remove config address amount).2 =
          territory.forest.weigh weight) ∧
      (territory.remove config address amount).2 =
        min amount (territory.forest.countOf address.key) := by
  have ordered := sound.topLevel_le_maxLevel
  have bounded := sound.maxLevel_le_finestLevel
  cases found : territory.forest.locate? address.location config.topLevel.toNat
      config.maxLevel.toNat with
  | none =>
      have uncovered :=
        (Forest.WellFormed.locate?_eq_none_iff wellFormed ordered bounded).mp found
      simp only [Territory.remove, found]
      refine ⟨wellFormed, fun weight => by simp, ?_⟩
      rw [Forest.WellFormed.countOf_eq_zero wellFormed addressSound uncovered, Nat.min_zero]
  | some leaf =>
      have leafAt := (Forest.WellFormed.locate?_eq_some_iff wellFormed ordered bounded).mp found
      obtain ⟨falls, cell, present, isLeaf⟩ := id leafAt
      have cellSound := Forest.WellFormed.sound wellFormed present
      simp only [Territory.remove, found, present]
      refine ⟨?_, fun weight => ?_, ?_⟩
      · refine Forest.WellFormed.retally wellFormed present isLeaf
          (cellSound.tally.remove address.key amount) fun key bucket held => ?_
        obtain ⟨old, before, sameLocation⟩ := Tally.getElem?_of_remove held
        rw [sameLocation]
        exact cellSound.placed key old before
      · have changed := Forest.weigh_setCell weight present
          { cell with tally := (cell.tally.remove address.key amount).1 }
        have taken := Tally.weigh_remove weight cell.tally address.key amount
        simp only at changed ⊢
        omega
      · rw [Tally.remove_snd,
          Forest.WellFormed.countOf_eq wellFormed addressSound leafAt present]

end

theorem WellFormed.sweep (wellFormed : territory.WellFormed config) :
    (territory.sweep config).1.WellFormed config ∧
      ∀ weight, (territory.sweep config).1.forest.weigh weight =
        territory.forest.weigh weight := by
  have kept := Forest.WellFormed.mergeSweep wellFormed config.mergeThreshold.toNat
  by_cases idle : (territory.forest.mergeSweep config.mergeThreshold.toNat).2.isEmpty = true
  · simp only [Territory.sweep, idle, ↓reduceIte]
    exact ⟨wellFormed, fun weight => by simp⟩
  · simp only [Territory.sweep, idle, Bool.false_eq_true, ↓reduceIte]
    exact ⟨kept.wellFormed, kept.weigh⟩

end Territory

end LoadAtlas
