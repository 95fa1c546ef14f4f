import LoadAtlas.Proofs.Atlas.Change
import LoadAtlas.Proofs.Atlas.Effect

/-!
# The high-water mark

No leaf keeps more clients than the split threshold unless it is at the deepest level.  A leaf
could come to hold too many when a client is counted in it, when a split creates it, or when a
sweep folds its children into it.  The first is answered by a cascade, which follows every
child that is too full itself; the last cannot happen, as merging starts below splitting.
-/

namespace LoadAtlas

/-- Every leaf holds at most as many clients as the threshold, or is at the deepest level. -/
def Forest.HighWater (splitThreshold maxLevel : Nat) (forest : Forest) : Prop :=
  ∀ (id : CellId) (cell : Cell), forest.cells[id]? = some cell → cell.isLeaf = true →
    cell.clientCount ≤ splitThreshold ∨ id.level = maxLevel

theorem Forest.WellFormed.highWater {topLevel maxLevel splitThreshold : Nat} {forest : Forest}
    (wellFormed : forest.WellFormed topLevel maxLevel)
    (calm : forest.Calm splitThreshold maxLevel) :
    forest.HighWater splitThreshold maxLevel := by
  intro id cell present isLeaf
  rcases Nat.lt_or_ge id.level maxLevel with room | deepest
  · refine .inl (Nat.le_of_not_lt fun full => calm id ⟨cell, present, isLeaf, full, room⟩)
  · exact .inr (Nat.le_antisymm (wellFormed.levels present).2 deepest)

/-- Where no leaf is too full, a cell with more clients inside than a leaf may keep was split. -/
theorem Forest.WellFormed.isSplit_of_crowded {topLevel maxLevel splitThreshold : Nat}
    {forest : Forest} {id : CellId} (wellFormed : forest.WellFormed topLevel maxLevel)
    (calm : forest.Calm splitThreshold maxLevel) (lowest : topLevel ≤ id.level)
    (room : id.level < maxLevel) (crowded : splitThreshold < forest.clientsInside id) :
    forest.isSplit id = true := by
  obtain ⟨leaf, cell, key, bucket, present, held, falls⟩ :=
    wellFormed.clientsInside_pos_iff.mp (Nat.zero_lt_of_lt crowded)
  have isLeaf := wellFormed.isLeaf_of_bucket present held
  have leafFalls := (wellFormed.sound present).placed key bucket held
  rcases Nat.lt_or_ge leaf.level id.level with coarser | finer
  · -- A leaf around the cell would hold all of its clients.
    have inside := leafFalls.contains falls (Nat.le_of_lt coarser)
    have atMost := forest.clientsInside_le_of_contains leafFalls.isCell inside
    rw [wellFormed.clientsInside_leaf present isLeaf] at atMost
    exact absurd ⟨cell, present, isLeaf, by omega, by omega⟩ (calm leaf)
  · obtain ⟨above, abovePresent⟩ := wellFormed.shaped.exists_ancestor present finer lowest
    rw [falls.ancestor_eq leafFalls finer] at abovePresent
    by_contra whole
    have aboveLeaf : above.isLeaf = true := by simpa [isSplit, abovePresent] using whole
    rw [wellFormed.clientsInside_leaf abovePresent aboveLeaf] at crowded
    exact calm id ⟨above, abovePresent, aboveLeaf, crowded, room⟩

namespace Atlas

/-- Between requests every territory is quiet. -/
def Quiet (atlas : Atlas) : Prop :=
  ∀ entity, (atlas.territoryOf entity).Quiet atlas.config

variable {atlas after : Atlas} {entity : String} {territory : Territory} {request : Request}
  {reply : Reply}

theorem quiet_of_start {config : Config} (started : start config = .ok atlas) : atlas.Quiet := by
  obtain ⟨_, rfl⟩ := start_eq_ok_iff.mp started
  intro entity
  rw [territoryOf_of_absent (by simp)]
  exact Territory.quiet_empty config

theorem Quiet.setTerritory (quiet : atlas.Quiet) (changed : territory.Quiet atlas.config)
    (entity : String) : (atlas.setTerritory entity territory).Quiet := by
  intro other
  rw [territoryOf_setTerritory]
  split
  · exact changed
  · exact quiet other

section

variable (quiet : atlas.Quiet) (wellFormed : atlas.WellFormed)

include quiet wellFormed

theorem Quiet.insertBucket {address : Bucket.Address} (addressSound : address.Sound)
    (entity : String) : (atlas.insertBucket entity address 1).Quiet :=
  quiet.setTerritory ((quiet entity).insert wellFormed.config (wellFormed.territoryOf entity)
    addressSound Nat.one_pos) entity

theorem Quiet.removeBucket (entity : String) (address : Bucket.Address) (amount : Nat) :
    (atlas.removeBucket entity address amount).1.Quiet := by
  rcases removeBucket_cases atlas entity address amount with same | changed
  · rwa [same]
  · rw [changed]
    exact quiet.setTerritory ((quiet entity).remove wellFormed.config
      (wellFormed.territoryOf entity) address amount) entity

theorem Quiet.mergeSweep {swept : Atlas} {merged : Nat}
    (done : atlas.mergeSweep? entity = some (swept, merged)) : swept.Quiet := by
  obtain rfl := eq_of_mergeSweep? done
  exact quiet.setTerritory ((quiet entity).sweep wellFormed.config (wellFormed.territoryOf entity))
    entity

theorem Quiet.mergeAll : atlas.mergeAll.1.Quiet :=
  wellFormed.mergeAll_induction quiet fun kept still done => still.mergeSweep kept.wellFormed done

end

theorem Effect.quiet (effect : Effect atlas request after reply) (wellFormed : atlas.WellFormed)
    (quiet : atlas.Quiet) : after.Quiet := by
  cases effect with
  | idle config territories =>
      intro entity
      rw [config, territoryOf, territories]
      exact quiet entity
  | insert accepted => exact quiet.insertBucket wellFormed (sound_of_address accepted) _
  | remove accepted => exact quiet.removeBucket wellFormed _ _ _
  | mergeSweep done => exact quiet.mergeSweep wellFormed done
  | mergeAll => exact quiet.mergeAll wellFormed

/-- What holds of every atlas that requests can make of an empty one. -/
structure Reached (config : Config) (atlas : Atlas) : Prop where
  config : atlas.config = config
  wellFormed : atlas.WellFormed
  quiet : atlas.Quiet

section

variable {config : Config}

theorem reached_of_start (started : start config = .ok atlas) : Reached config atlas where
  config := by
    obtain ⟨_, rfl⟩ := start_eq_ok_iff.mp started
    rfl
  wellFormed := WellFormed.start started
  quiet := quiet_of_start started

theorem Reached.sound (reached : Reached config atlas) : config.Sound :=
  reached.config ▸ reached.wellFormed.config

theorem Effect.reached (effect : Effect atlas request after reply)
    (reached : Reached config atlas) :
    Reached config after where
  config := effect.config.trans reached.config
  wellFormed := effect.wellFormed reached.wellFormed
  quiet := effect.quiet reached.wellFormed reached.quiet

theorem Reached.run (reached : Reached config atlas) (requests : List Request) :
    Reached config (atlas.run requests) := by
  induction requests generalizing atlas with
  | nil => exact reached
  | cons request requests induction =>
      exact induction ((atlas.effect_serve request).reached reached)

end

/-- What bounds the leaves of an atlas. -/
structure HighWater (config : Config) (atlas : Atlas) : Prop where
  leaves : ∀ (entity : String) (territory : Territory),
    atlas.territories[entity]? = some territory →
      territory.forest.HighWater config.splitThreshold.toNat config.maxLevel.toNat
  /-- However many clients are counted in one place at once, and in whatever bucket, the cascade
  from their leaf leaves no leaf behind that is too full. -/
  cascade : ∀ (entity : String) (location : Location) (address : Bucket.Address) (amount : Nat),
    atlas.address location = .ok address → 0 < amount →
      ((atlas.insertBucket entity address amount).territoryOf entity).forest.HighWater
        config.splitThreshold.toNat config.maxLevel.toNat
  sweep : ∀ (entity : String) (territory : Territory),
    atlas.territories[entity]? = some territory →
      (territory.forest.mergeSweep config.mergeThreshold.toNat).1.HighWater
        config.splitThreshold.toNat config.maxLevel.toNat

theorem Quiet.highWater (quiet : atlas.Quiet) (wellFormed : atlas.WellFormed) :
    HighWater atlas.config atlas where
  leaves entity territory present := by
    have known := quiet entity
    rw [territoryOf_of_present present] at known
    exact Forest.WellFormed.highWater (wellFormed.territory present) known.calm
  cascade entity location address amount accepted positive := by
    have sound := sound_of_address accepted
    have changed := (quiet entity).insert wellFormed.config (wellFormed.territoryOf entity) sound
      positive
    have later : (atlas.insertBucket entity address amount).Quiet :=
      quiet.setTerritory changed entity
    exact Forest.WellFormed.highWater
      ((wellFormed.insertBucket sound positive entity).territoryOf entity) (later entity).calm
  sweep entity territory present := by
    have known := quiet entity
    rw [territoryOf_of_present present] at known
    have swept := known.sweep wellFormed.config (wellFormed.territory present)
    rw [← Territory.forest_sweep]
    exact Forest.WellFormed.highWater (wellFormed.territory present).sweep.1 swept.calm

/-- Whatever was asked for, no leaf above the deepest level holds too many clients. -/
theorem highWater_of_start {config : Config} (started : start config = .ok atlas)
    (requests : List Request) : HighWater config (atlas.run requests) := by
  have reached := (reached_of_start started).run requests
  have bounded := reached.quiet.highWater reached.wellFormed
  rwa [reached.config] at bounded

/-- Of four clients in one place the last splits the cells around it, and when three are gone a
sweep merges these for the one that is left. -/
theorem highWater_crowded :
    let config : Config := { Config.standard with splitThreshold := 3, mergeThreshold := 2 }
    HighWater config (run { config } [.insert "api" ⟨2.35, 48.85⟩, .insert "api" ⟨2.35, 48.85⟩,
      .insert "api" ⟨2.35, 48.85⟩, .insert "api" ⟨2.35, 48.85⟩, .remove "api" ⟨2.35, 48.85⟩ 3,
      .mergeAll]) := by
  intro config
  exact highWater_of_start (show start config = .ok { config } from rfl) _

end Atlas

end LoadAtlas
