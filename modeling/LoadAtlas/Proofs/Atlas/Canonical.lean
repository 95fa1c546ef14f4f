import LoadAtlas.Proofs.Atlas.HighWater
import LoadAtlas.Proofs.Atlas.View

/-!
# The order of arrival

Cells come to be in three ways: as a top cell where the first client arrives, as a further child
of a split cell, and by a cascade.  Which one it is depends on the order in which clients arrive,
but what comes out does not.  After clients of a new entity were counted its forest is canonical,
so the numbers of clients tell all that can be seen of it, and these are the same in any order.
-/

namespace LoadAtlas

/-! ## Numbers of locations -/

namespace Config

/-- The bucket of a location under a configuration, if the location is accepted. -/
def address? (config : Config) (location : Location) : Option Bucket.Address :=
  (Bucket.address location config.bucketPrecision.toNat).toOption

/-- How many of some locations are accepted with a bucket inside a cell. -/
def numberInside (config : Config) (locations : List Location) (id : CellId) : Nat :=
  (locations.filterMap config.address?).countP fun address => address.location.FallsInto id

/-- How many of some locations are accepted with a key. -/
def numberWith (config : Config) (locations : List Location) (key : String) : Nat :=
  (locations.filterMap config.address?).countP fun address => address.key = key

theorem sound_of_address? {config : Config} {location : Location} {address : Bucket.Address}
    (accepted : config.address? location = some address) : address.Sound := by
  cases found : Bucket.address location config.bucketPrecision.toNat with
  | error fault => simp [address?, found, Except.toOption] at accepted
  | ok known =>
      obtain rfl : known = address := by simpa [address?, found, Except.toOption] using accepted
      exact Bucket.sound_of_address found

theorem sound_of_mem_filterMap {config : Config} {locations : List Location} :
    ∀ address ∈ locations.filterMap config.address?, address.Sound := by
  intro address member
  obtain ⟨location, _, accepted⟩ := List.mem_filterMap.mp member
  exact sound_of_address? accepted

end Config

/-! ## One client more -/

namespace Territory

variable {config : Config} {territory : Territory} {address : Bucket.Address} {amount : Nat}

theorem Quiet.filled_insert (quiet : territory.Quiet config) (sound : config.Sound)
    (wellFormed : territory.WellFormed config) (addressSound : address.Sound)
    (positive : 0 < amount) (filled : territory.forest.Filled config.splitThreshold.toNat) :
    (territory.insert config address amount).1.forest.Filled config.splitThreshold.toNat := by
  obtain ⟨placed, weighed⟩ := wellFormed.place sound addressSound positive
  have falls : address.location.FallsInto (territory.place config address amount).leaf :=
    (wellFormed.settle sound address.location).leafAt.1
  have inside (id : CellId) : (territory.place config address amount).territory.forest.clientsInside
      id = territory.forest.clientsInside id + Bucket.inside id address.key * amount :=
    weighed (Bucket.inside id)
  -- Only the leaf that counts the clients can be new, and it holds them.
  have filledPlaced : (territory.place config address amount).territory.forest.Filled
      config.splitThreshold.toNat := by
    refine filled.extended (wellFormed.extended_place sound address amount) (fun id => ?_) ?_
    · rw [inside]
      exact Nat.le_add_right _ _
    · rw [inside, Bucket.inside_of_located addressSound, if_pos falls]
      omega
  exact filledPlaced.divided (quiet.divided_insert address amount) placed
    sound.maxLevel_le_finestLevel

end Territory

namespace Atlas

/-- One atlas came out of another one by counting one client of an entity in each of some
buckets. -/
structure Counted (config : Config) (entity : String) (addresses : List Bucket.Address)
    (before after : Atlas) : Prop where
  reached : Reached config after
  overrides : after.overrides = before.overrides
  merges : after.merges = before.merges
  others : ∀ other, other ≠ entity → after.territories[other]? = before.territories[other]?
  unknown_iff : after.territories[entity]? = none ↔
    before.territories[entity]? = none ∧ addresses = []
  weigh : ∀ weight, (after.territoryOf entity).forest.weigh weight =
    (before.territoryOf entity).forest.weigh weight +
      (addresses.map fun address => weight address.key).sum
  /-- There are as many new branches as there were splits. -/
  branches : after.splits + (before.territoryOf entity).forest.branches.length =
    before.splits + (after.territoryOf entity).forest.branches.length
  filled : (before.territoryOf entity).forest.Filled config.splitThreshold.toNat →
    (after.territoryOf entity).forest.Filled config.splitThreshold.toNat

variable {config : Config} {atlas first second third : Atlas} {entity : String}
  {address : Bucket.Address}

namespace Counted

theorem refl (reached : Reached config atlas) (entity : String) :
    Counted config entity [] atlas atlas where
  reached := reached
  overrides := rfl
  merges := rfl
  others _ _ := rfl
  unknown_iff := (and_iff_left rfl).symm
  weigh _ := rfl
  branches := rfl
  filled := id

theorem trans {addresses more : List Bucket.Address}
    (earlier : Counted config entity addresses first second)
    (later : Counted config entity more second third) :
    Counted config entity (addresses ++ more) first third where
  reached := later.reached
  overrides := later.overrides.trans earlier.overrides
  merges := later.merges.trans earlier.merges
  others other different := (later.others other different).trans (earlier.others other different)
  unknown_iff := by
    rw [later.unknown_iff, earlier.unknown_iff, List.append_eq_nil_iff, and_assoc]
  weigh weight := by
    rw [later.weigh, earlier.weigh, List.map_append, List.sum_append, Nat.add_assoc]
  branches := by
    have before := earlier.branches
    have after := later.branches
    omega
  filled before := later.filled (earlier.filled before)

end Counted

theorem counted_insert {location : Location} (reached : Reached config atlas)
    (accepted : atlas.address location = .ok address) (entity : String) :
    Counted config entity [address] atlas (atlas.insertBucket entity address 1) := by
  obtain rfl := reached.config
  have sound := sound_of_address accepted
  have known := reached.wellFormed.territoryOf entity
  have quiet := reached.quiet entity
  have changed := territoryOf_insertBucket atlas entity address 1 entity
  rw [if_pos rfl] at changed
  constructor
  case reached => exact (Effect.insert accepted).reached reached
  case overrides => rfl
  case merges => rfl
  case others =>
    intro other different
    simp [insertBucket, setTerritory, Std.ExtTreeMap.getElem?_insert, Ne.symm different]
  case unknown_iff => simp [insertBucket, setTerritory]
  case weigh =>
    intro weight
    rw [changed, (known.insert reached.sound sound Nat.one_pos).2, List.map_singleton,
      List.sum_singleton, Nat.mul_one]
  case branches =>
    rw [changed, quiet.length_branches_insert reached.sound known sound Nat.one_pos]
    change atlas.splits + ((atlas.territoryOf entity).insert atlas.config address 1).2 + _ = _
    omega
  case filled =>
    rw [changed]
    exact quiet.filled_insert reached.sound known sound Nat.one_pos

theorem address?_eq_toOption (atlas : Atlas) (location : Location) :
    atlas.config.address? location = (atlas.address location).toOption := by
  cases found : Bucket.address location atlas.config.bucketPrecision.toNat <;>
    simp [Config.address?, Atlas.address, found, Except.toOption, Except.mapError]

theorem counted_run (reached : Reached config atlas) (entity : String)
    (locations : List Location) : Counted config entity (locations.filterMap config.address?) atlas
      (atlas.run (locations.map (.insert entity))) := by
  induction locations generalizing atlas with
  | nil => exact .refl reached entity
  | cons location locations induction =>
      rw [List.map_cons]
      change Counted config entity _ atlas ((atlas.serve (.insert entity location)).1.run _)
      have read := atlas.address?_eq_toOption location
      rw [reached.config] at read
      cases accepted : atlas.address location with
      | error fault =>
          rw [accepted, Except.toOption] at read
          rw [serve_insert_of_refused accepted, List.filterMap_cons_none read]
          exact induction reached
      | ok address =>
          rw [accepted, Except.toOption] at read
          rw [serve_insert_of_accepted accepted, List.filterMap_cons_some read]
          have once := counted_insert reached accepted entity
          exact once.trans (induction once.reached)

/-! ## A new entity -/

/-- The forest that the numbers of accepted locations call for. -/
structure Charted (config : Config) (locations : List Location) (forest : Forest) : Prop where
  /-- The cells are those with clients that are top cells or lie in a crowded one. -/
  cells : ∀ id, id ∈ forest.cells ↔ 1 ≤ config.numberInside locations id ∧
    (id.level = config.topLevel.toNat ∨
      (config.topLevel.toNat < id.level ∧ id.level ≤ config.maxLevel.toNat) ∧
        config.splitThreshold.toNat <
          config.numberInside locations (id.ancestor (id.level - 1)))
  /-- The leaves are the cells that are not crowded or at the deepest level. -/
  leaves : ∀ (id : CellId) (cell : Cell), forest.cells[id]? = some cell →
    (cell.isLeaf = true ↔
      config.numberInside locations id ≤ config.splitThreshold.toNat ∨
        id.level = config.maxLevel.toNat)
  clients : ∀ (leaf : CellId) (cell : Cell), forest.cells[leaf]? = some cell →
    cell.isLeaf = true → cell.clientCount = config.numberInside locations leaf
  /-- A leaf holds the buckets inside it, and no other. -/
  buckets : ∀ (leaf : CellId) (cell : Cell), forest.cells[leaf]? = some cell →
    cell.isLeaf = true → ∀ (key : String) (bucket : Bucket),
      cell.tally.buckets[key]? = some bucket ↔
        (∃ location ∈ locations, config.address? location = some ⟨key, bucket.location⟩) ∧
          bucket.location.FallsInto leaf ∧ bucket.count = config.numberWith locations key

section

variable {locations : List Location} {forest : Forest}
  (weighed : ∀ weight, forest.weigh weight =
    ((locations.filterMap config.address?).map fun address => weight address.key).sum)

include weighed

theorem clientsInside_eq_numberInside (id : CellId) :
    forest.clientsInside id = config.numberInside locations id := by
  rw [Forest.clientsInside, weighed, Config.numberInside, ← Table.sum_map_ite_eq_countP]
  congr 1
  refine List.map_congr_left fun address member => ?_
  rw [Bucket.inside_of_located (Config.sound_of_mem_filterMap address member)]

theorem countOf_eq_numberWith (key : String) :
    forest.countOf key = config.numberWith locations key := by
  rw [Forest.countOf_eq_weigh, weighed, Config.numberWith, ← Table.sum_map_ite_eq_countP]
  rfl

theorem charted_of_canonical (bounded : config.maxLevel.toNat ≤ CellId.finestLevel)
    (canonical : forest.Canonical config.topLevel.toNat config.maxLevel.toNat
      config.splitThreshold.toNat) : Charted config locations forest where
  cells id := by
    rw [canonical.mem_cells_iff bounded, clientsInside_eq_numberInside weighed,
      clientsInside_eq_numberInside weighed]
    rfl
  leaves id cell present := by
    rw [canonical.isLeaf_iff present, clientsInside_eq_numberInside weighed]
  clients leaf cell present isLeaf := by
    rw [← clientsInside_eq_numberInside weighed,
      canonical.wellFormed.clientsInside_leaf present isLeaf]
  buckets leaf cell present isLeaf key bucket := by
    rw [canonical.getElem?_leaf_iff present isLeaf, countOf_eq_numberWith weighed]
    constructor
    · rintro ⟨sound, falls, count⟩
      have counted := count ▸ sound.positive
      obtain ⟨address, member, hasKey⟩ := List.countP_pos_iff.mp counted
      obtain rfl : address.key = key := by simpa using hasKey
      obtain ⟨location, here, accepted⟩ := List.mem_filterMap.mp member
      have located := Config.sound_of_address? accepted
      rw [Bucket.Address.Sound, sound.located] at located
      refine ⟨⟨location, here, ?_⟩, falls, count⟩
      rw [Except.ok.inj located]
      exact accepted
    · rintro ⟨⟨location, here, accepted⟩, falls, count⟩
      have member : ⟨key, bucket.location⟩ ∈ locations.filterMap config.address? :=
        List.mem_filterMap.mpr ⟨location, here, accepted⟩
      refine ⟨⟨?_, Config.sound_of_address? accepted⟩, falls, count⟩
      rw [count, Config.numberWith, List.countP_pos_iff]
      exact ⟨_, member, by simp⟩

end

namespace Counted

variable {addresses others : List Bucket.Address} {before after other : Atlas}

theorem getElem?_territories (counted : Counted config entity addresses before after)
    (counts : addresses ≠ []) :
    after.territories[entity]? = some (after.territoryOf entity) := by
  cases present : after.territories[entity]? with
  | none => exact absurd (counted.unknown_iff.mp present).2 counts
  | some territory => rw [territoryOf_of_present present]

section

variable (counted : Counted config entity addresses before after)
  (unknown : before.territories[entity]? = none)

include counted unknown

theorem canonical : (after.territoryOf entity).forest.Canonical config.topLevel.toNat
    config.maxLevel.toNat config.splitThreshold.toNat where
  wellFormed := counted.reached.config ▸ counted.reached.wellFormed.territoryOf entity
  calm := counted.reached.config ▸ (counted.reached.quiet entity).calm
  filled := counted.filled (by
    rw [territoryOf_of_absent unknown]
    exact Forest.filled_empty _)

theorem weigh_of_unknown (weight : String → Nat) :
    (after.territoryOf entity).forest.weigh weight =
      (addresses.map fun address => weight address.key).sum := by
  rw [counted.weigh, territoryOf_of_absent unknown]
  exact (congrArg (· + _) (Forest.weigh_empty weight)).trans (Nat.zero_add _)

theorem splits_of_unknown : after.splits =
    before.splits + (after.territoryOf entity).forest.branches.length := by
  have branches := counted.branches
  rw [territoryOf_of_absent unknown] at branches
  exact (congrArg (after.splits + ·.length) Forest.branches_empty).symm.trans branches

end

/-- The same buckets in another order leave an atlas that looks the same. -/
theorem view_eq (counted : Counted config entity addresses before after)
    (countedOther : Counted config entity others before other)
    (unknown : before.territories[entity]? = none) (perm : others.Perm addresses) :
    other.view = after.view := by
  have canonical := counted.canonical unknown
  have canonicalOther := countedOther.canonical unknown
  have sameView :
      (other.territoryOf entity).forest.view = (after.territoryOf entity).forest.view := by
    refine canonicalOther.view_eq canonical counted.reached.sound.maxLevel_le_finestLevel
      fun weight => ?_
    rw [countedOther.weigh_of_unknown unknown, counted.weigh_of_unknown unknown]
    exact (perm.map _).sum_nat
  have sameForests : other.view.forests = after.view.forests := by
    refine Std.ExtTreeMap.ext_getElem? fun name => ?_
    by_cases here : name = entity
    · -- Without a single client the entity stays unknown in both atlases.
      rw [here, getElem?_forests, getElem?_forests]
      by_cases nothing : addresses = []
      · rw [counted.unknown_iff.mpr ⟨unknown, nothing⟩,
          countedOther.unknown_iff.mpr ⟨unknown, List.perm_nil.mp (nothing ▸ perm)⟩]
      · have counts : others ≠ [] := fun none => nothing (List.nil_perm.mp (none ▸ perm))
        rw [counted.getElem?_territories nothing, countedOther.getElem?_territories counts,
          Option.map_some, Option.map_some, sameView]
    · rw [getElem?_forests, getElem?_forests, countedOther.others name here,
        counted.others name here]
  have sameSplits : other.splits = after.splits := by
    rw [countedOther.splits_of_unknown unknown, counted.splits_of_unknown unknown,
      canonicalOther.wellFormed.length_branches_eq_of_view_eq canonical.wellFormed sameView]
  rw [view, view, countedOther.overrides, counted.overrides, countedOther.merges, counted.merges,
    sameSplits]
  exact congrArg (View.mk _ · _ _) sameForests

end Counted

/-- What an atlas looks like after clients of a new entity were counted at some locations. -/
structure Canonical (config : Config) (atlas : Atlas) (entity : String)
    (locations : List Location) : Prop where
  charted : Charted config locations
    ((atlas.run (locations.map (.insert entity))).territoryOf entity).forest
  /-- Every split left a split cell. -/
  splits : (atlas.run (locations.map (.insert entity))).splits = atlas.splits +
    ((atlas.run (locations.map (.insert entity))).territoryOf entity).forest.branches.length
  /-- In any other order the same locations leave the same tree and the same statistics. -/
  answers : ∀ others : List Location, others.Perm locations → ∀ query,
    (atlas.run (others.map (.insert entity))).answer query =
      (atlas.run (locations.map (.insert entity))).answer query
  walks : ∀ others : List Location, others.Perm locations → ∀ other,
    (atlas.run (others.map (.insert entity))).reports? other =
      (atlas.run (locations.map (.insert entity))).reports? other

/-- Whatever was asked for before, and in whatever order the clients of a new entity come, their
numbers determine its tree. -/
theorem canonical_of_start (started : start config = .ok atlas)
    (earlier : List Request) (unknown : (atlas.run earlier).territories[entity]? = none)
    (locations : List Location) : Canonical config (atlas.run earlier) entity locations := by
  have reached := (reached_of_start started).run earlier
  have counted := counted_run reached entity
  have sameView (others : List Location) (perm : others.Perm locations) :
      ((atlas.run earlier).run (others.map (.insert entity))).view =
        ((atlas.run earlier).run (locations.map (.insert entity))).view :=
    (counted locations).view_eq (counted others) unknown (perm.filterMap _)
  exact {
    charted := charted_of_canonical ((counted locations).weigh_of_unknown unknown)
      reached.sound.maxLevel_le_finestLevel ((counted locations).canonical unknown)
    splits := (counted locations).splits_of_unknown unknown
    answers := fun others perm query => answer_eq_of_view_eq (sameView others perm) query
    walks := fun others perm other => reports?_eq_of_view_eq (sameView others perm) other }

/-- The third client in one place splits the cells around it. -/
theorem canonical_crowded :
    let config : Config := { Config.standard with splitThreshold := 2, mergeThreshold := 1 }
    Canonical config (run { config } [.setOverride "web" []]) "api"
      [⟨2.35, 48.85⟩, ⟨-0.12, 51.5⟩, ⟨2.35, 48.85⟩, ⟨2.35, 48.85⟩] := by
  intro config
  exact canonical_of_start (show start config = .ok { config } from rfl) _
    (by simp [run, serve, setOverride]) _

end Atlas

end LoadAtlas
