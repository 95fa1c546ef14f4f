import LoadAtlas.Proofs.Atlas.Bare
import LoadAtlas.Proofs.Atlas.HighWater
import LoadAtlas.Proofs.Cell.Shape

/-!
# Rooted atlases

Every top cell came to be for some location, so it lies on one of the six faces.  No other
change makes a top cell, and so every cell of an atlas lies on the face of its top cell.
-/

namespace LoadAtlas

/-! ## One more top cell -/

namespace Forest

variable {topLevel maxLevel splitThreshold count : Nat} {before after forest : Forest}
  {leaf other id : CellId}

theorem Divided.tops (divided : Divided splitThreshold maxLevel before after count) :
    after.tops = before.tops := by
  induction divided with
  | start => rfl
  | split _ _ _ _ _ induction =>
      rw [Forest.split, tops_addGroups]
      exact induction

theorem tops_splitCascade (forest : Forest) (id : CellId) (splitThreshold maxLevel : Nat) :
    (forest.splitCascade id splitThreshold maxLevel).1.tops = forest.tops :=
  (divided_splitCascade forest id splitThreshold maxLevel).tops

theorem Extended.mem_tops (extended : Extended before after leaf)
    (earlier : before.WellFormed topLevel maxLevel) (later : after.WellFormed topLevel maxLevel)
    (member : other ∈ after.tops) : other = leaf ∨ other ∈ before.tops := by
  obtain ⟨there, level⟩ := (later.tops other).mp member
  by_cases same : other = leaf
  · exact .inl same
  · exact .inr ((earlier.tops other).mpr ⟨(extended.mem_cells there).resolve_left same, level⟩)

/-- The cells of a forest lie on the faces of its top cells. -/
theorem WellFormed.onFace (wellFormed : forest.WellFormed topLevel maxLevel)
    (rooted : ∀ top ∈ forest.tops, top.OnFace) (member : id ∈ forest.cells) : id.OnFace := by
  obtain ⟨cell, present⟩ := mem_cells_iff.mp member
  have level := (wellFormed.levels present).1
  obtain ⟨top, topPresent⟩ := wellFormed.shaped.exists_ancestor present level (Nat.le_refl _)
  have bounded := id.level_le_finest
  have isTop : id.ancestor topLevel ∈ forest.tops :=
    (wellFormed.tops _).mpr ⟨mem_cells_iff.mpr ⟨top, topPresent⟩,
      id.level_ancestor (level.trans bounded)⟩
  exact CellId.onFace_of_contains (wellFormed.isCell topPresent) (wellFormed.isCell present)
    (CellId.contains_ancestor (wellFormed.isCell present) level) (rooted _ isTop)

end Forest

namespace Territory

variable {config : Config} {territory : Territory} {address : Bucket.Address} {amount : Nat}
  {id : CellId}

theorem tops_insert (territory : Territory) (config : Config) (address : Bucket.Address)
    (amount : Nat) : (territory.insert config address amount).1.forest.tops =
      (territory.place config address amount).territory.forest.tops := by
  simp only [insert]
  split
  · split
    · exact Forest.tops_splitCascade _ _ _ _
    · rfl
  · rfl

/-- A top cell that is new after counting is the cell of the location. -/
theorem WellFormed.mem_tops_insert (sound : config.Sound) (wellFormed : territory.WellFormed config)
    (addressSound : address.Sound) (positive : 0 < amount)
    (member : id ∈ (territory.insert config address amount).1.forest.tops) :
    id ∈ territory.forest.tops ∨ address.location.FallsInto id := by
  rw [tops_insert] at member
  obtain ⟨placed, _⟩ := wellFormed.place sound addressSound positive
  rcases (wellFormed.extended_place sound address amount).mem_tops wellFormed placed member with
    rfl | earlier
  · exact .inr (wellFormed.settle sound address.location).leafAt.1
  · exact .inl earlier

end Territory

/-! ## All entities -/

namespace Atlas

/-- The top cells of all entities lie on faces. -/
def Rooted (atlas : Atlas) : Prop :=
  ∀ entity tops, atlas.topCells? entity = some tops → ∀ top ∈ tops, top.OnFace

variable {config : Config} {atlas after : Atlas} {entity : String} {territory : Territory}
  {request : Request} {reply : Reply}

theorem Rooted.tops (rooted : atlas.Rooted)
    (present : atlas.territories[entity]? = some territory) :
    ∀ top ∈ territory.forest.tops, top.OnFace := by
  intro top member
  exact rooted entity territory.forest.topCells (by rw [topCells?, present, Option.map_some]) top
    (Forest.mem_topCells.mpr member)

theorem Rooted.territoryOf (rooted : atlas.Rooted) (entity : String) :
    ∀ top ∈ (atlas.territoryOf entity).forest.tops, top.OnFace := by
  cases present : atlas.territories[entity]? with
  | none =>
      rw [territoryOf_of_absent present]
      intro top member
      exact absurd member Std.ExtTreeSet.not_mem_empty
  | some territory =>
      rw [territoryOf_of_present present]
      exact rooted.tops present

theorem rooted_of_start (started : start config = .ok atlas) : atlas.Rooted := by
  obtain ⟨_, rfl⟩ := start_eq_ok_iff.mp started
  intro entity tops known
  simp [topCells?] at known

theorem Rooted.insertBucket (rooted : atlas.Rooted) (wellFormed : atlas.WellFormed)
    {address : Bucket.Address} (addressSound : address.Sound) {amount : Nat} (positive : 0 < amount)
    (entity : String) : (atlas.insertBucket entity address amount).Rooted := by
  intro other tops known top member
  simp only [topCells?, Atlas.insertBucket, setTerritory, Std.ExtTreeMap.getElem?_insert] at known
  by_cases here : entity = other
  · subst here
    rw [if_pos (by simp), Option.map_some, Option.some.injEq] at known
    rw [← known, Forest.mem_topCells] at member
    rcases (wellFormed.territoryOf entity).mem_tops_insert wellFormed.config addressSound positive
      member with earlier | falls
    · exact rooted.territoryOf entity top earlier
    · exact falls.onFace
  · rw [if_neg (by simpa using here)] at known
    exact rooted other tops known top member

theorem Rooted.congr (rooted : atlas.Rooted)
    (same : ∀ entity, after.topCells? entity = atlas.topCells? entity) : after.Rooted :=
  fun entity tops known => rooted entity tops ((same entity).symm.trans known)

theorem Effect.rooted (effect : Effect atlas request after reply) (wellFormed : atlas.WellFormed)
    (rooted : atlas.Rooted) : after.Rooted := by
  cases effect with
  | idle _ territories => exact rooted.congr fun entity => by rw [topCells?, topCells?, territories]
  | insert accepted =>
      exact rooted.insertBucket wellFormed (sound_of_address accepted) Nat.one_pos _
  | remove accepted => exact rooted.congr (atlas.topCells?_removeBucket _ _ _)
  | mergeSweep done => exact rooted.congr (topCells?_mergeSweep? wellFormed done)
  | mergeAll => exact rooted.congr (topCells?_mergeAll wellFormed)

end Atlas

end LoadAtlas
