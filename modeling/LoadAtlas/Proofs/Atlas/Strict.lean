import LoadAtlas.Atlas.Strict
import LoadAtlas.Proofs.Atlas.Ledger
import LoadAtlas.Proofs.Forest.Audit
import LoadAtlas.Proofs.Forest.Strict

/-!
# Strict operations on well-formed atlases

On a well-formed atlas the strict operations do not stop, and they do what the plain ones do.
A location that no leaf counts is covered at the first attempt to count it and found at the
second, and no leaf counts fewer clients than are taken out of one of its buckets.

So no run from an empty atlas comes upon a missing cell, a cell created twice, a cell below the
deepest level or a loop without end.  All forests that it comes to are well formed, with leaves
that share neither ground nor keys.
-/

namespace LoadAtlas

namespace Territory.Strict

open Forest.Strict

variable {config : Config} {territory : Territory} {address : Bucket.Address} {amount : Nat}

section Attempts

variable (wellFormed : territory.WellFormed config)
  (ordered : config.topLevel.toNat ≤ config.maxLevel.toNat)
  (bounded : config.maxLevel.toNat ≤ CellId.finestLevel)

include wellFormed ordered bounded

theorem locate_eq_ok (location : Location) :
    locate territory.forest location config.topLevel.toNat config.maxLevel.toNat =
      .ok (territory.forest.locate? location config.topLevel.toNat config.maxLevel.toNat) :=
  Forest.Strict.locate_eq_ok wellFormed ordered bounded location

/-- Where a leaf counts the location, one attempt is enough. -/
theorem place_of_leafAt {leaf : CellId} (leafAt : territory.forest.LeafAt address.location leaf)
    (amount attempts : Nat) : place territory config address amount (attempts + 1) =
      .ok (territory.place config address amount) := by
  have found := (Forest.WellFormed.locate?_eq_some_iff wellFormed ordered bounded).mpr leafAt
  obtain ⟨_, cell, present, isLeaf⟩ := leafAt
  rw [place, locate_eq_ok wellFormed ordered bounded, found, ok_bind]
  have counted : (territory.forest.setCell leaf { cell with
      tally := cell.tally.add address.key address.location amount }).countAt leaf =
        (cell.tally.add address.key address.location amount).total := by
    simp [Forest.countAt, Cell.clientCount]
  simp only [expect_of_present present, ok_bind, isLeaf, not_true_eq_false, ↓reduceIte,
    Territory.place, Forest.settle, found, counted, Forest.addAt, present]
  rfl

theorem place_eq_ok (address : Bucket.Address) (amount : Nat) :
    place territory config address amount 2 = .ok (territory.place config address amount) := by
  cases found : territory.forest.locate? address.location config.topLevel.toNat
      config.maxLevel.toNat with
  | some leaf =>
      exact place_of_leafAt wellFormed ordered bounded
        ((Forest.WellFormed.locate?_eq_some_iff wellFormed ordered bounded).mp found) amount 1
  | none =>
      have covered := Forest.WellFormed.cover wellFormed ordered bounded address.location
      have opened : (territory.covering config address.location).WellFormed config :=
        covered.kept.wellFormed
      have second := place_of_leafAt opened ordered bounded covered.leafAt amount 0
      rw [place, locate_eq_ok wellFormed ordered bounded, found, ok_bind,
        cover_eq_ok wellFormed ordered bounded]
      exact second.trans
        (congrArg Except.ok (wellFormed.place_covering ordered bounded address amount))

end Attempts

section

variable (sound : config.Sound) (wellFormed : territory.WellFormed config)

include sound wellFormed

theorem splitMarked_eq_ok (leaf : CellId) :
    splitMarked territory config leaf = .ok (territory.splitMarked config leaf) := by
  rw [splitMarked, splitCascade_eq_ok wellFormed sound.maxLevel_le_finestLevel, ok_bind]
  rfl

theorem insert_eq_ok (addressSound : address.Sound) (positive : 0 < amount) :
    insert territory config address amount = .ok (territory.insert config address amount) := by
  have marked : ((territory.place config address amount).territory.mark
      (territory.place config address amount).leaf).1.WellFormed config :=
    (wellFormed.place sound addressSound positive).1
  rw [insert, place_eq_ok wellFormed sound.topLevel_le_maxLevel sound.maxLevel_le_finestLevel,
    ok_bind, Territory.insert]
  by_cases overfull : (territory.place config address amount).overfull = true
  · by_cases isNew : ((territory.place config address amount).territory.mark
        (territory.place config address amount).leaf).2 = true
    · simp only [overfull, isNew, ↓reduceIte]
      exact splitMarked_eq_ok sound marked _
    · simp only [overfull, isNew, Bool.false_eq_true, ↓reduceIte]
      rfl
  · simp only [overfull, Bool.false_eq_true, ↓reduceIte]
    rfl

theorem remove_eq_ok (address : Bucket.Address) (amount : Nat) :
    remove territory config address amount = .ok (territory.remove config address amount) := by
  rw [remove, locate_eq_ok wellFormed sound.topLevel_le_maxLevel sound.maxLevel_le_finestLevel,
    ok_bind, Territory.remove]
  cases found : territory.forest.locate? address.location config.topLevel.toNat
      config.maxLevel.toNat with
  | none => rfl
  | some leaf =>
      obtain ⟨_, cell, present, _⟩ := (Forest.WellFormed.locate?_eq_some_iff wellFormed
        sound.topLevel_le_maxLevel sound.maxLevel_le_finestLevel).mp found
      have balanced := (Forest.WellFormed.sound wellFormed present).tally.balanced
      have enough : ¬ cell.tally.total < (cell.tally.remove address.key amount).2 := by
        rw [Tally.remove_snd, balanced, Nat.not_lt]
        exact Nat.le_trans (Nat.min_le_right _ _) (BucketTable.countOf_le_sum _ _)
      simp only [expect_of_present present, ok_bind, present, if_neg enough]
      rfl

end

theorem sweep_eq_ok (wellFormed : territory.WellFormed config) :
    sweep territory config = .ok (territory.sweep config) := by
  rw [sweep, mergeSweep_eq_ok wellFormed, ok_bind, Territory.sweep]
  by_cases idle : (territory.forest.mergeSweep config.mergeThreshold.toNat).2.isEmpty = true
  · simp only [idle, ↓reduceIte]
    rfl
  · simp only [idle, Bool.false_eq_true, ↓reduceIte]
    rfl

end Territory.Strict

/-- The parts of a forest are told apart: an audit accepts it, its leaves share neither ground
nor keys, and every cell but the top cells is listed once, by the cell around it. -/
structure Forest.Distinct (topLevel : Nat) (forest : Forest) : Prop where
  audited : forest.audit = .ok ()
  ground : ∀ (first second inner : CellId) (firstCell secondCell : Cell),
    forest.cells[first]? = some firstCell → firstCell.isLeaf = true →
      forest.cells[second]? = some secondCell → secondCell.isLeaf = true →
        inner.IsCell → first.contains inner = true → second.contains inner = true → first = second
  keys : ∀ (first second : CellId) (firstCell secondCell : Cell) (key : String),
    forest.cells[first]? = some firstCell → key ∈ firstCell.tally.buckets →
      forest.cells[second]? = some secondCell → key ∈ secondCell.tally.buckets → first = second
  listed : ∀ (id : CellId) (cell : Cell), forest.cells[id]? = some cell → topLevel < id.level →
    ∃ parent : Cell, forest.cells[id.ancestor (id.level - 1)]? = some parent ∧
      parent.children.count id = 1

theorem Forest.WellFormed.distinct {topLevel maxLevel : Nat} {forest : Forest}
    (wellFormed : forest.WellFormed topLevel maxLevel) : forest.Distinct topLevel where
  audited := wellFormed.audit
  ground _ _ _ _ _ firstPresent firstLeaf secondPresent secondLeaf isCell inFirst inSecond :=
    wellFormed.eq_of_leaves_contain firstPresent firstLeaf secondPresent secondLeaf isCell inFirst
      inSecond
  keys _ _ _ _ _ firstPresent firstHeld secondPresent secondHeld :=
    wellFormed.cell_unique_of_key firstPresent (Std.ExtTreeMap.getElem?_eq_some_getElem firstHeld)
      secondPresent (Std.ExtTreeMap.getElem?_eq_some_getElem secondHeld)
  listed id cell present below := by
    obtain ⟨parent, parentPresent, member⟩ := wellFormed.parent present below
    exact ⟨parent, parentPresent, (wellFormed.parent_unique parentPresent member).2.2⟩

namespace Atlas.Strict

open Forest.Strict

variable {config : Config} {atlas : Atlas} {address : Bucket.Address} {amount : Nat}

section

variable (wellFormed : atlas.WellFormed)

include wellFormed

theorem insertBucket_eq_ok (addressSound : address.Sound) (positive : 0 < amount)
    (entity : String) : insertBucket atlas entity address amount =
      .ok (atlas.insertBucket entity address amount) := by
  rw [insertBucket, ← territoryOf, Territory.Strict.insert_eq_ok wellFormed.config
    (wellFormed.territoryOf entity) addressSound positive, ok_bind]
  rfl

theorem removeBucket_eq_ok (entity : String) (address : Bucket.Address) (amount : Nat) :
    removeBucket atlas entity address amount = .ok (atlas.removeBucket entity address amount) := by
  cases present : atlas.territories[entity]? with
  | none => simp [removeBucket, Atlas.removeBucket, present]
  | some territory =>
      have removed := Territory.Strict.remove_eq_ok wellFormed.config (wellFormed.territory present)
        address amount
      simp only [removeBucket, Atlas.removeBucket, present, removed, ok_bind]
      rfl

theorem mergeSweep_eq_ok (entity : String) :
    mergeSweep atlas entity = .ok (atlas.mergeSweep? entity) := by
  cases present : atlas.territories[entity]? with
  | none => simp [mergeSweep, mergeSweep?, present]
  | some territory =>
      have swept := Territory.Strict.sweep_eq_ok (wellFormed.territory present)
      simp only [mergeSweep, mergeSweep?, present, swept, ok_bind]
      rfl

theorem mergeAll_eq_ok : mergeAll atlas = .ok atlas.mergeAll := by
  refine foldlM_eq_ok (fun state => state.1.WellFormed) (fun state entity known => ?_)
    (fun state entity _ known => ?_) wellFormed
  · cases done : state.1.mergeSweep? entity with
    | none => simpa only [done] using known
    | some result => simpa only [done] using ((Kept.refl known).mergeSweep done).wellFormed
  · simp only [mergeSweep_eq_ok known, ok_bind]
    cases state.1.mergeSweep? entity <;> rfl

theorem serve_eq_ok (request : Request) : serve atlas request = .ok (atlas.serve request) := by
  cases request with
  | insert entity location =>
      cases accepted : atlas.address location with
      | error fault => simp only [serve, accepted, serve_insert_of_refused accepted]
      | ok address =>
          simp only [serve, accepted, serve_insert_of_accepted accepted,
            insertBucket_eq_ok wellFormed (sound_of_address accepted) Nat.one_pos, ok_bind]
          rfl
  | remove entity location amount =>
      cases accepted : atlas.address location with
      | error fault => simp only [serve, accepted, serve_remove_of_refused accepted]
      | ok address =>
          simp only [serve, accepted, serve_remove_of_accepted accepted,
            removeBucket_eq_ok wellFormed, ok_bind]
          rfl
  | mergeSweep entity =>
      simp only [serve, Atlas.serve, mergeSweep_eq_ok wellFormed, ok_bind]
      cases atlas.mergeSweep? entity <;> rfl
  | mergeAll =>
      simp only [serve, mergeAll_eq_ok wellFormed, ok_bind]
      rfl
  | setOverride entity cells => rfl
  | clearOverride entity => rfl
  | read query => rfl

theorem run_eq_ok (requests : List Request) : run atlas requests = .ok (atlas.run requests) := by
  refine foldlM_eq_ok (fun state => state.WellFormed)
    (fun state request known => (state.effect_serve request).wellFormed known)
    (fun state request _ known => ?_) wellFormed
  rw [serve_eq_ok known]
  rfl

end

/-- A run comes upon nothing that is not as it has to be, and ends with well-formed forests. -/
structure Orderly (config : Config) (atlas : Atlas) (requests : List Request) : Prop where
  unstopped : run atlas requests = .ok (atlas.run requests)
  wellFormed : ∀ (entity : String) (territory : Territory),
    (atlas.run requests).territories[entity]? = some territory →
      territory.forest.WellFormed config.topLevel.toNat config.maxLevel.toNat
  distinct : ∀ (entity : String) (territory : Territory),
    (atlas.run requests).territories[entity]? = some territory →
      territory.forest.Distinct config.topLevel.toNat

/-- However the requests come, every run from an empty atlas is orderly. -/
theorem orderly_of_start (started : Atlas.start config = .ok atlas) (requests : List Request) :
    Orderly config atlas requests :=
  ⟨run_eq_ok (WellFormed.start started) requests,
    fun _ _ present => wellFormed_of_run started present,
    fun _ _ present => (wellFormed_of_run started present).distinct⟩

/-- A run of two entities with the standard configuration. -/
theorem orderly_standard : Orderly Config.standard { config := Config.standard }
    [.insert "api" ⟨2.35, 48.85⟩, .insert "cdn" ⟨-0.1, 51.5⟩, .mergeSweep "api",
      .remove "cdn" ⟨-0.1, 51.5⟩ 1, .mergeAll] :=
  orderly_of_start rfl _

end Atlas.Strict

end LoadAtlas
