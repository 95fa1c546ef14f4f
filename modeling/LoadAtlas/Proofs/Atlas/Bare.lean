import LoadAtlas.Proofs.Atlas.Balance
import LoadAtlas.Proofs.Forest.Bare

/-!
# Bare atlases

An atlas is bare if all its forests are.  Merging everything sweeps each territory once, so an
atlas from which all clients are gone is bare afterwards.  Its cells are its top cells then, all
of them active, and every split that was ever made was merged back.
-/

namespace LoadAtlas

namespace Atlas

variable {atlas : Atlas} {entity other : String}

/-! ## Merging everything -/

theorem getElem?_mergeSweep? {swept : Atlas} {merged : Nat}
    (done : atlas.mergeSweep? entity = some (swept, merged)) (other : String) :
    swept.territories[other]? = if entity = other then
        atlas.territories[other]?.map fun territory => (territory.sweep atlas.config).1
      else atlas.territories[other]? := by
  cases present : atlas.territories[entity]? with
  | none => simp [mergeSweep?, present] at done
  | some territory =>
      obtain rfl := eq_of_mergeSweep? done
      rw [territoryOf_of_present present, setTerritory, Std.ExtTreeMap.getElem?_insert]
      by_cases here : entity = other
      · rw [if_pos here, if_pos (by simp [here]), ← here, present, Option.map_some]
      · rw [if_neg here, if_neg (by simpa using here)]

theorem getElem?_foldl_mergeSweep? (entities : List String) (distinct : entities.Nodup)
    (state : Atlas × Nat) (other : String) :
    (entities.foldl
      (fun (atlas, merged) entity =>
        match atlas.mergeSweep? entity with
        | none => (atlas, merged)
        | some (swept, more) => (swept, merged + more))
      state).1.territories[other]? = if other ∈ entities then
        state.1.territories[other]?.map fun territory => (territory.sweep state.1.config).1
      else state.1.territories[other]? := by
  induction entities generalizing state with
  | nil => simp
  | cons entity entities induction =>
      obtain ⟨fresh, rest⟩ := List.nodup_cons.mp distinct
      rw [List.foldl_cons, induction rest]
      cases done : state.1.mergeSweep? entity with
      | none =>
          have absent : state.1.territories[entity]? = none := by
            simpa [mergeSweep?] using done
          simp only [done]
          by_cases here : other = entity
          · subst here
            simp [fresh, absent]
          · simp [here]
      | some result =>
          have config : result.1.config = state.1.config := by
            rw [eq_of_mergeSweep? done]
            rfl
          have swept := getElem?_mergeSweep? done other
          simp only [done, config, swept]
          by_cases here : other = entity
          · subst here
            simp [fresh]
          · simp [here, Ne.symm here]

/-- Merging everything sweeps every territory once. -/
theorem getElem?_mergeAll (atlas : Atlas) (entity : String) :
    atlas.mergeAll.1.territories[entity]? =
      atlas.territories[entity]?.map fun territory => (territory.sweep atlas.config).1 := by
  have swept := getElem?_foldl_mergeSweep? atlas.territories.keys Std.ExtTreeMap.nodup_keys
    (atlas, 0) entity
  refine Eq.trans swept ?_
  by_cases known : entity ∈ atlas.territories.keys
  · rw [if_pos known]
  · have absent : atlas.territories[entity]? = none :=
      Std.ExtTreeMap.getElem?_eq_none (fun member => known (Std.ExtTreeMap.mem_keys.mpr member))
    rw [if_neg known, absent, Option.map_none]

/-! ## Top cells -/

theorem mem_territories_iff : entity ∈ atlas.territories ↔ (atlas.topCells? entity).isSome := by
  rw [Std.ExtTreeMap.mem_iff_isSome_getElem?, topCells?, Option.isSome_map]

theorem mem_insertBucket_iff {address : Bucket.Address} {amount : Nat} :
    other ∈ (atlas.insertBucket entity address amount).territories ↔
      entity = other ∨ other ∈ atlas.territories := by
  simp [insertBucket, setTerritory, Std.ExtTreeMap.mem_insert]

theorem topCells?_removeBucket (atlas : Atlas) (entity : String) (address : Bucket.Address)
    (amount : Nat) (other : String) :
    (atlas.removeBucket entity address amount).1.topCells? other = atlas.topCells? other := by
  cases present : atlas.territories[entity]? with
  | none => simp only [removeBucket, present]
  | some territory =>
      simp only [removeBucket, present, topCells?, setTerritory, Std.ExtTreeMap.getElem?_insert]
      by_cases here : entity = other
      · subst here
        rw [if_pos (by simp), present, Option.map_some, Option.map_some, Forest.topCells,
          Territory.tops_remove, Forest.topCells]
      · rw [if_neg (by simpa using here)]

theorem topCells?_removeBuckets (atlas : Atlas) (entity : String)
    (entries : List (String × Bucket)) (other : String) :
    (atlas.removeBuckets entity entries).topCells? other = atlas.topCells? other :=
  List.foldlRecOn (motive := fun current => topCells? current other = atlas.topCells? other)
    entries _ rfl fun current known entry _ =>
      (current.topCells?_removeBucket entity _ entry.2.count other).trans known

theorem topCells?_mergeSweep? (wellFormed : atlas.WellFormed) {swept : Atlas} {merged : Nat}
    (done : atlas.mergeSweep? entity = some (swept, merged)) (other : String) :
    swept.topCells? other = atlas.topCells? other := by
  rw [topCells?, topCells?, getElem?_mergeSweep? done]
  by_cases here : entity = other
  · rw [if_pos here]
    cases present : atlas.territories[other]? with
    | none => rfl
    | some territory =>
        have kept := (wellFormed.territory present).swept_sweep.tops
        simp only [Option.map_some, Forest.topCells, kept]
  · rw [if_neg here]

/-- Merging everything keeps the top cells of all entities. -/
theorem topCells?_mergeAll (wellFormed : atlas.WellFormed) (entity : String) :
    atlas.mergeAll.1.topCells? entity = atlas.topCells? entity := by
  rw [topCells?, topCells?, getElem?_mergeAll, Option.map_map]
  cases present : atlas.territories[entity]? with
  | none => rfl
  | some territory =>
      have swept := (wellFormed.territory present).swept_sweep
      simp only [Option.map_some, Function.comp_apply, Forest.topCells, swept.tops]

/-! ## Atlases without clients -/

/-- The forests of all entities are bare. -/
def Bare (atlas : Atlas) : Prop :=
  ∀ {entity : String} {territory : Territory}, atlas.territories[entity]? = some territory →
    territory.forest.Bare

theorem WellFormed.bare_mergeAll (wellFormed : atlas.WellFormed)
    (deserted : ∀ entity key, atlas.countOf entity key = 0) : atlas.mergeAll.1.Bare := by
  intro entity swept present
  rw [getElem?_mergeAll, Option.map_eq_some_iff] at present
  obtain ⟨territory, earlier, rfl⟩ := present
  have empty : territory.forest.Deserted := fun key => by
    rw [← countOf_of_present earlier, deserted]
  rw [Territory.forest_sweep]
  exact empty.bare_mergeSweep (wellFormed.territory earlier) wellFormed.config.mergeThreshold_pos

namespace Bare

variable (bare : atlas.Bare)

include bare

theorem branchCount_eq_zero : atlas.branchCount = 0 := by
  apply List.sum_eq_zero
  intro count member
  obtain ⟨⟨entity, territory⟩, entry, rfl⟩ := List.mem_map.mp member
  have present := Std.ExtTreeMap.mem_toList_iff_getElem?_eq_some.mp entry
  exact congrArg List.length (bare present).branches_eq_nil

theorem splits_eq_merges (balanced : atlas.Balanced) : atlas.splits = atlas.merges := by
  rw [Balanced, bare.branchCount_eq_zero] at balanced
  exact balanced

/-- All cells are top cells. -/
theorem cells_stats (wellFormed : atlas.WellFormed) : atlas.stats.cells =
    (atlas.territories.toList.map fun entry => entry.2.forest.topCells.length).sum := by
  simp only [stats, List.map_map]
  refine congrArg List.sum (List.map_congr_left fun entry member => ?_)
  have present := Std.ExtTreeMap.mem_toList_iff_getElem?_eq_some.mp member
  exact (bare present).size_eq (wellFormed.territory present)

theorem clientCount_eq_zero (wellFormed : atlas.WellFormed) {territory : Territory}
    (present : atlas.territories[entity]? = some territory) :
    territory.forest.clientCount = 0 := by
  rw [Forest.WellFormed.clientCount_eq_weigh (wellFormed.territory present)]
  apply List.sum_eq_zero
  intro count member
  obtain ⟨⟨id, cell⟩, entry, rfl⟩ := List.mem_map.mp member
  have inForest := Std.ExtTreeMap.mem_toList_iff_getElem?_eq_some.mp entry
  rw [(bare present).empty inForest]
  rfl

end Bare

end Atlas

end LoadAtlas
