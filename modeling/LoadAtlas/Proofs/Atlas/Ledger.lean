import LoadAtlas.Proofs.Atlas.Effect

/-!
# The ledger of an atlas

Seen from outside, an atlas keeps one number for every entity and every bucket key: how many
clients were counted with it, less what was taken away again.  The trace of a run tells both,
so the forests only decide where the clients are counted, never how many there are.
-/

namespace LoadAtlas

namespace Atlas

/-- The clients that a request with its reply counted for an entity and a key. -/
def counted (config : Config) (entity key : String) : Request × Reply → Nat
  | (.insert other location, .done) =>
      if other = entity ∧ config.keyOf? location = some key then 1 else 0
  | _ => 0

/-- The clients that a request with its reply took from an entity and a key. -/
def taken (config : Config) (entity key : String) : Request × Reply → Nat
  | (.remove other location _, .removed amount) =>
      if other = entity ∧ config.keyOf? location = some key then amount else 0
  | _ => 0

variable {atlas : Atlas}

theorem gain_within_only (config : Config) (entity key : String) (entry : Request × Reply) :
    gain config (within entity (BucketTable.only key)) entry = counted config entity key entry := by
  obtain ⟨request, reply⟩ := entry
  cases request with
  | insert other location =>
      cases reply with
      | done =>
          cases found : config.keyOf? location with
          | none => simp [gain, weightOf, counted, found]
          | some known =>
              simpa [gain, weightOf, insertions, counted, found] using
                within_only_mul other entity key known 1
      | _ => simp [gain, insertions, counted]
  | _ => simp [gain, insertions, counted]

theorem loss_within_only (config : Config) (entity key : String) (entry : Request × Reply) :
    loss config (within entity (BucketTable.only key)) entry = taken config entity key entry := by
  obtain ⟨request, reply⟩ := entry
  cases request with
  | remove other location =>
      cases reply with
      | removed amount =>
          cases found : config.keyOf? location with
          | none => simp [loss, weightOf, taken, found]
          | some known =>
              simpa [loss, weightOf, removals, taken, found] using
                within_only_mul other entity key known amount
      | _ => simp [loss, removals, taken]
  | _ => simp [loss, removals, taken]

/-- The trace of a run accounts for every change of a number of clients. -/
theorem WellFormed.ledger (wellFormed : atlas.WellFormed) (requests : List Request)
    (entity key : String) : (atlas.run requests).countOf entity key +
        ((atlas.trace requests).map (taken atlas.config entity key)).sum =
      atlas.countOf entity key +
        ((atlas.trace requests).map (counted atlas.config entity key)).sum := by
  have weighed := wellFormed.weigh_run requests (within entity (BucketTable.only key))
  rwa [funext (gain_within_only _ entity key), funext (loss_within_only _ entity key),
    ← countOf_eq_weigh, ← countOf_eq_weigh] at weighed

/-- What the trace of a run from an empty atlas tells about the clients in it, and what splits
and merges have no say in. -/
structure Accounted (config : Config) (atlas : Atlas) (requests : List Request) : Prop where
  /-- An entity has as many clients with a key as were counted and not taken. -/
  balance : ∀ entity key : String, (atlas.run requests).countOf entity key +
      ((atlas.trace requests).map (taken config entity key)).sum =
    ((atlas.trace requests).map (counted config entity key)).sum
  /-- A removal takes as many clients as there are, up to the amount asked for. -/
  removal : ∀ (entity : String) (location : Location) (address : Bucket.Address) (amount : Nat),
    (atlas.run requests).address location = .ok address →
      ((atlas.run requests).serve (.remove entity location amount)).2 =
        .removed (min amount ((atlas.run requests).countOf entity address.key))
  /-- An entity without a territory has no clients, nor has any where no leaf counts them. -/
  uncovered : ∀ (entity : String) (location : Location) (address : Bucket.Address),
    (atlas.run requests).address location = .ok address →
      (∀ territory : Territory, (atlas.run requests).territories[entity]? = some territory →
        territory.forest.locate? address.location config.topLevel.toNat config.maxLevel.toNat =
          none) →
      (atlas.run requests).countOf entity address.key = 0
  split : ∀ (entity : String) (territory : Territory),
    (atlas.run requests).territories[entity]? = some territory →
      ∀ (leaf : CellId) (splitThreshold : Nat) (key : String),
        (territory.forest.splitCascade leaf splitThreshold config.maxLevel.toNat).1.countOf key =
          territory.forest.countOf key
  merge : ∀ (entity : String) (territory : Territory),
    (atlas.run requests).territories[entity]? = some territory →
      ∀ (id : CellId) (mergeThreshold : Nat) (merged : Forest),
        territory.forest.merge? id mergeThreshold = some merged →
          ∀ key : String, merged.countOf key = territory.forest.countOf key
  sweep : ∀ (entity : String) (territory : Territory),
    (atlas.run requests).territories[entity]? = some territory →
      ∀ (mergeThreshold : Nat) (key : String),
        (territory.forest.mergeSweep mergeThreshold).1.countOf key = territory.forest.countOf key

/-- However the requests come, an atlas that started empty is accounted for by its trace. -/
theorem accounted_of_start {config : Config} (started : start config = .ok atlas)
    (requests : List Request) : Accounted config atlas requests := by
  have initial := WellFormed.start started
  obtain ⟨wellFormed, _⟩ := initial.run requests
  obtain ⟨sound, same⟩ := start_eq_ok_iff.mp started
  refine ⟨fun entity key => ?_, fun entity location address amount accepted => ?_,
    fun entity location address accepted nowhere => ?_,
    fun entity territory present leaf splitThreshold key => ?_,
    fun entity territory present id mergeThreshold merged done key => ?_,
    fun entity territory present mergeThreshold key => ?_⟩
  · have nothing : atlas.countOf entity key = 0 := by simp [same, countOf]
    have sameConfig : atlas.config = config := by rw [same]
    have accounts := initial.ledger requests entity key
    rwa [sameConfig, nothing, Nat.zero_add] at accounts
  · rw [serve_remove_of_accepted accepted,
      wellFormed.removeBucket_snd (sound_of_address accepted) entity amount]
  · cases present : (atlas.run requests).territories[entity]? with
    | none => simp [countOf, present]
    | some territory =>
        have known := wellFormed_of_run started present
        rw [countOf_of_present present]
        exact known.countOf_eq_zero (sound_of_address accepted)
          ((known.locate?_eq_none_iff sound.topLevel_le_maxLevel
            sound.maxLevel_le_finestLevel).mp (nowhere territory present))
  · exact ((wellFormed_of_run started present).splitCascade sound.maxLevel_le_finestLevel leaf
      splitThreshold).countOf key
  · exact ((wellFormed_of_run started present).merge? done).countOf key
  · exact ((wellFormed_of_run started present).mergeSweep mergeThreshold).countOf key

/-- A run with the standard configuration: two clients are counted at one place, the cells are
merged, and three clients are asked for. -/
theorem accounted_standard : Accounted Config.standard { config := Config.standard }
    [.insert "api" ⟨2.35, 48.85⟩, .insert "api" ⟨2.35, 48.85⟩, .mergeAll,
      .remove "api" ⟨2.35, 48.85⟩ 3] :=
  accounted_of_start rfl _

end Atlas

end LoadAtlas
