import LoadAtlas.Proofs.Atlas.HighWater

/-!
# The balance of splits and merges

An atlas counts splits and merges by what cascades and sweeps reply, while its statistics count
the cells that are there.  The two agree at all times: every split that was not merged back is
a branch of some forest, so splits less merges are the cells that are not active.  New top cells
and new children of a branch come without a split, and are active.
-/

namespace LoadAtlas

namespace Atlas

/-- The branches of all entities. -/
def branchCount (atlas : Atlas) : Nat :=
  Table.sum (fun _ territory => territory.forest.branches.length) atlas.territories

/-- Every split was merged back or left a branch. -/
def Balanced (atlas : Atlas) : Prop :=
  atlas.splits = atlas.merges + atlas.branchCount

variable {atlas after : Atlas} {entity : String} {request : Request} {reply : Reply}

theorem branchCount_setTerritory (atlas : Atlas) (entity : String) (territory : Territory) :
    (atlas.setTerritory entity territory).branchCount +
        (atlas.territoryOf entity).forest.branches.length =
      atlas.branchCount + territory.forest.branches.length :=
  sum_setTerritory (fun _ territory => territory.forest.branches.length) atlas entity territory
    (congrArg List.length Forest.branches_empty)

theorem balanced_of_start {config : Config} (started : start config = .ok atlas) :
    atlas.Balanced := by
  obtain ⟨_, rfl⟩ := start_eq_ok_iff.mp started
  simp [Balanced, branchCount]

theorem Balanced.mergeSweep (balanced : atlas.Balanced) (wellFormed : atlas.WellFormed)
    {swept : Atlas} {merged : Nat} (done : atlas.mergeSweep? entity = some (swept, merged)) :
    swept.Balanced := by
  obtain rfl := eq_of_mergeSweep? done
  have ended := (wellFormed.territoryOf entity).length_branches_sweep
  have changed := branchCount_setTerritory atlas entity
    ((atlas.territoryOf entity).sweep atlas.config).1
  unfold Balanced at *
  change atlas.splits = atlas.merges + ((atlas.territoryOf entity).sweep atlas.config).2 +
    (atlas.setTerritory entity ((atlas.territoryOf entity).sweep atlas.config).1).branchCount
  omega

theorem Balanced.mergeAll (balanced : atlas.Balanced) (wellFormed : atlas.WellFormed) :
    atlas.mergeAll.1.Balanced :=
  wellFormed.mergeAll_induction balanced
    fun kept still done => still.mergeSweep kept.wellFormed done

theorem Balanced.insertBucket (balanced : atlas.Balanced) (wellFormed : atlas.WellFormed)
    (quiet : atlas.Quiet) {address : Bucket.Address} (addressSound : address.Sound)
    (entity : String) : (atlas.insertBucket entity address 1).Balanced := by
  have divided := (quiet entity).length_branches_insert wellFormed.config
    (wellFormed.territoryOf entity) addressSound Nat.one_pos
  have changed := branchCount_setTerritory atlas entity
    ((atlas.territoryOf entity).insert atlas.config address 1).1
  unfold Balanced at *
  change atlas.splits + ((atlas.territoryOf entity).insert atlas.config address 1).2 =
    atlas.merges + (atlas.setTerritory entity
      ((atlas.territoryOf entity).insert atlas.config address 1).1).branchCount
  omega

theorem Balanced.removeBucket (balanced : atlas.Balanced) (wellFormed : atlas.WellFormed)
    (entity : String) (address : Bucket.Address) (amount : Nat) :
    (atlas.removeBucket entity address amount).1.Balanced := by
  rcases removeBucket_cases atlas entity address amount with same | changed
  · rwa [same]
  · have branches := (wellFormed.territoryOf entity).length_branches_remove wellFormed.config
      address amount
    have difference := branchCount_setTerritory atlas entity
      ((atlas.territoryOf entity).remove atlas.config address amount).1
    rw [changed]
    unfold Balanced at *
    change atlas.splits = atlas.merges + (atlas.setTerritory entity
      ((atlas.territoryOf entity).remove atlas.config address amount).1).branchCount
    omega

theorem Effect.balanced (effect : Effect atlas request after reply)
    (wellFormed : atlas.WellFormed) (quiet : atlas.Quiet) (balanced : atlas.Balanced) :
    after.Balanced := by
  cases effect with
  | idle config territories splits merges =>
      rw [Balanced, branchCount, territories, splits, merges]
      exact balanced
  | insert accepted =>
      exact balanced.insertBucket wellFormed quiet (sound_of_address accepted) _
  | remove accepted => exact balanced.removeBucket wellFormed _ _ _
  | mergeSweep done => exact balanced.mergeSweep wellFormed done
  | mergeAll => exact balanced.mergeAll wellFormed

theorem Balanced.run {config : Config} (balanced : atlas.Balanced) (reached : Reached config atlas)
    (requests : List Request) : (atlas.run requests).Balanced := by
  induction requests generalizing atlas with
  | nil => exact balanced
  | cons request requests induction =>
      have effect := atlas.effect_serve request
      exact induction (effect.balanced reached.wellFormed reached.quiet balanced)
        (effect.reached reached)

/-! ## Steady atlases -/

/-- An atlas that traffic can bring about, with its splits and merges in balance. -/
structure Steady (config : Config) (atlas : Atlas) : Prop extends Reached config atlas where
  balanced : atlas.Balanced

theorem steady_of_start {config : Config} (started : start config = .ok atlas) :
    Steady config atlas :=
  ⟨reached_of_start started, balanced_of_start started⟩

namespace Steady

variable {config : Config} {address : Bucket.Address} (steady : Steady config atlas)

include steady

theorem insertBucket (addressSound : address.Sound) (entity : String) :
    Steady config (atlas.insertBucket entity address 1) where
  config := steady.config
  wellFormed := steady.wellFormed.insertBucket addressSound Nat.one_pos entity
  quiet := steady.quiet.insertBucket steady.wellFormed addressSound entity
  balanced := steady.balanced.insertBucket steady.wellFormed steady.quiet addressSound entity

theorem removeBucket (addressSound : address.Sound) (entity : String) (amount : Nat) :
    Steady config (atlas.removeBucket entity address amount).1 where
  config := (atlas.config_removeBucket entity address amount).trans steady.config
  wellFormed := steady.wellFormed.removeBucket addressSound entity amount
  quiet := steady.quiet.removeBucket steady.wellFormed entity address amount
  balanced := steady.balanced.removeBucket steady.wellFormed entity address amount

theorem removeBuckets {entries : List (String × Bucket)}
    (sound : ∀ entry ∈ entries, entry.2.Sound entry.1) (entity : String) :
    Steady config (atlas.removeBuckets entity entries) :=
  List.foldlRecOn (motive := Steady config) entries _ steady fun _ known entry member =>
    known.removeBucket (sound entry member).address entity entry.2.count

/-- Overrides have no say in it. -/
theorem overrides (overrides : Std.ExtTreeMap String (List CellId)) :
    Steady config { atlas with overrides } where
  config := steady.config
  wellFormed := ⟨steady.wellFormed.config, steady.wellFormed.territory⟩
  quiet := steady.quiet
  balanced := steady.balanced

theorem mergeSweep {swept : Atlas} {merged : Nat}
    (done : atlas.mergeSweep? entity = some (swept, merged)) : Steady config swept where
  config := ((Kept.refl steady.wellFormed).mergeSweep done).config.trans steady.config
  wellFormed := ((Kept.refl steady.wellFormed).mergeSweep done).wellFormed
  quiet := steady.quiet.mergeSweep steady.wellFormed done
  balanced := steady.balanced.mergeSweep steady.wellFormed done

theorem mergeAll : Steady config atlas.mergeAll.1 where
  config := steady.wellFormed.mergeAll.config.trans steady.config
  wellFormed := steady.wellFormed.mergeAll.wellFormed
  quiet := steady.quiet.mergeAll steady.wellFormed
  balanced := steady.balanced.mergeAll steady.wellFormed

end Steady

/-! ## Statistics -/

theorem WellFormed.cells_stats (wellFormed : atlas.WellFormed) :
    atlas.stats.cells = atlas.stats.activeCells + atlas.branchCount := by
  have sizes : Table.sum (fun _ territory => territory.forest.size) atlas.territories =
      Table.sum (fun _ territory => territory.forest.activeSize + territory.forest.branches.length)
        atlas.territories :=
    Table.sum_congr fun _ _ present =>
      Forest.WellFormed.size_eq (wellFormed.territory present)
  rw [Table.sum_add] at sizes
  simpa only [stats, branchCount, Table.sum, List.map_map, Function.comp_def] using sizes

theorem WellFormed.trackedClients_stats (wellFormed : atlas.WellFormed) :
    atlas.stats.trackedClients = atlas.weigh fun _ _ => 1 := by
  have clients : Table.sum (fun _ territory => territory.forest.clientCount) atlas.territories =
      Table.sum (fun _ territory => territory.forest.weigh fun _ => 1) atlas.territories :=
    Table.sum_congr fun _ _ present =>
      Forest.WellFormed.clientCount_eq_weigh (wellFormed.territory present)
  simpa only [stats, weigh, Table.sum, List.map_map, Function.comp_def] using clients

/-- With weight one the gains and losses of a request are the clients counted and taken away. -/
theorem Effect.weight_one (effect : Effect atlas request after reply) :
    gain atlas.config (fun _ _ => 1) (request, reply) = insertions (request, reply) ∧
      loss atlas.config (fun _ _ => 1) (request, reply) = removals (request, reply) := by
  cases effect with
  | idle config territories splits merges insertions removals =>
      rw [gain, loss, insertions, removals]
      exact ⟨rfl, rfl⟩
  | insert accepted =>
      simp [gain, loss, weightOf, insertions, removals, keyOf?_of_accepted accepted]
  | remove accepted =>
      simp [gain, loss, weightOf, insertions, removals, keyOf?_of_accepted accepted]
  | mergeSweep done => exact ⟨rfl, rfl⟩
  | mergeAll => exact ⟨rfl, rfl⟩

theorem map_trace_weight_one (atlas : Atlas) (requests : List Request) :
    (atlas.trace requests).map (gain atlas.config fun _ _ => 1) =
        (atlas.trace requests).map insertions ∧
      (atlas.trace requests).map (loss atlas.config fun _ _ => 1) =
        (atlas.trace requests).map removals := by
  induction requests generalizing atlas with
  | nil => exact ⟨rfl, rfl⟩
  | cons request requests induction =>
      have effect := atlas.effect_serve request
      obtain ⟨gains, losses⟩ := induction (atlas.serve request).1
      rw [effect.config] at gains losses
      simp only [trace, List.map_cons, effect.weight_one, gains, losses, and_self]

/-- How the statistics after a run hang together with each other and with the replies. -/
structure Reconciled (atlas : Atlas) (requests : List Request) : Prop where
  merges_le : (atlas.run requests).stats.merges ≤ (atlas.run requests).stats.splits
  active_le : (atlas.run requests).stats.activeCells ≤ (atlas.run requests).stats.cells
  /-- Splits less merges are the cells that are not active. -/
  splits : (atlas.run requests).stats.splits - (atlas.run requests).stats.merges =
    (atlas.run requests).stats.cells - (atlas.run requests).stats.activeCells
  /-- The cells that are not active are the split cells of all entities. -/
  branches : (atlas.run requests).stats.cells - (atlas.run requests).stats.activeCells =
    ((atlas.run requests).territories.toList.map fun entry => entry.2.forest.branches.length).sum
  /-- The clients are those that were counted and not taken away. -/
  clients : (atlas.run requests).stats.trackedClients +
      ((atlas.trace requests).map removals).sum = ((atlas.trace requests).map insertions).sum

theorem reconciled_of_start {config : Config} (started : start config = .ok atlas)
    (requests : List Request) : Reconciled atlas requests := by
  have initial := reached_of_start started
  have wellFormed := (initial.run requests).wellFormed
  have balanced := (balanced_of_start started).run initial requests
  have cells := wellFormed.cells_stats
  have counters : (atlas.run requests).stats.splits = (atlas.run requests).splits ∧
      (atlas.run requests).stats.merges = (atlas.run requests).merges := ⟨rfl, rfl⟩
  unfold Balanced at balanced
  refine ⟨by omega, by omega, by omega, ?_, ?_⟩
  · rw [cells, Nat.add_sub_cancel_left]
    rfl
  · have weighed := initial.wellFormed.weigh_run requests fun _ _ => 1
    obtain ⟨gains, losses⟩ := atlas.map_trace_weight_one requests
    have nothing : (atlas.weigh fun _ _ => 1) = 0 := by
      obtain ⟨_, rfl⟩ := start_eq_ok_iff.mp started
      exact Table.sum_empty _
    rw [gains, losses, nothing, Nat.zero_add] at weighed
    rwa [wellFormed.trackedClients_stats]

/-- Two entities, one of which has so many clients in one place that cells are split, and merged
again when all but one are gone. -/
theorem reconciled_crowded :
    let config : Config := { Config.standard with splitThreshold := 3, mergeThreshold := 2 }
    Reconciled { config }
      [.insert "api" ⟨2.35, 48.85⟩, .insert "web" ⟨2.35, 48.85⟩, .insert "api" ⟨2.35, 48.85⟩,
        .insert "api" ⟨2.35, 48.85⟩, .insert "api" ⟨2.35, 48.85⟩, .remove "api" ⟨2.35, 48.85⟩ 3,
        .mergeAll] := by
  intro config
  exact reconciled_of_start (show start config = .ok { config } from rfl) _

end Atlas

end LoadAtlas
