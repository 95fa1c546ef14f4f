import LoadAtlas.Proofs.Atlas.WellFormed

/-!
# Effects of requests

A request has one of five effects on an atlas: none, clients are counted, clients are taken
away, one territory is swept, or all are.  What a request does to an atlas is proved effect by
effect, and what a run does follows by induction.

Whatever weight is given to entities and keys, a request changes the weight of an atlas by what
its reply says was counted or taken.
-/

namespace LoadAtlas

/-- The bucket key of a location under a configuration, if the location is accepted. -/
def Config.keyOf? (config : Config) (location : Location) : Option String :=
  match Bucket.address location config.bucketPrecision.toNat with
  | .ok address => some address.key
  | .error _ => none

namespace Atlas

/-- The number of clients that a request with its reply counted. -/
def insertions : Request × Reply → Nat
  | (.insert _ _, .done) => 1
  | _ => 0

/-- The number of clients that a request with its reply took away. -/
def removals : Request × Reply → Nat
  | (.remove _ _ _, .removed amount) => amount
  | _ => 0

/-- The weight of one client at the location of a request. -/
def weightOf (config : Config) (weight : String → String → Nat) : Request → Nat
  | .insert entity location | .remove entity location _ =>
      match config.keyOf? location with
      | some key => weight entity key
      | none => 0
  | _ => 0

/-- What a request with its reply adds to the weight of an atlas. -/
def gain (config : Config) (weight : String → String → Nat) (entry : Request × Reply) : Nat :=
  weightOf config weight entry.1 * insertions entry

/-- What a request with its reply takes off the weight of an atlas. -/
def loss (config : Config) (weight : String → String → Nat) (entry : Request × Reply) : Nat :=
  weightOf config weight entry.1 * removals entry

variable {atlas after : Atlas} {entity : String} {location : Location} {address : Bucket.Address}
  {request : Request} {reply : Reply}

/-! ## One request -/

theorem keyOf?_of_accepted (accepted : atlas.address location = .ok address) :
    atlas.config.keyOf? location = some address.key := by
  cases found : Bucket.address location atlas.config.bucketPrecision.toNat with
  | error fault => simp [Atlas.address, found, Except.mapError] at accepted
  | ok known =>
      obtain rfl : known = address := by
        simpa [Atlas.address, found, Except.mapError] using accepted
      simp [Config.keyOf?, found]

theorem serve_insert_of_accepted (accepted : atlas.address location = .ok address)
    (entity : String) :
    atlas.serve (.insert entity location) = (atlas.insertBucket entity address 1, .done) := by
  simp [serve, Atlas.insert, accepted, bind, Except.bind, pure, Except.pure]

theorem serve_insert_of_refused {fault : Fault} (refused : atlas.address location = .error fault)
    (entity : String) : atlas.serve (.insert entity location) = (atlas, .refused fault) := by
  simp [serve, Atlas.insert, refused, bind, Except.bind]

theorem serve_remove_of_accepted (accepted : atlas.address location = .ok address)
    (entity : String) (amount : Nat) : atlas.serve (.remove entity location amount) =
      ((atlas.removeBucket entity address amount).1,
        .removed (atlas.removeBucket entity address amount).2) := by
  simp [serve, Atlas.remove, accepted, bind, Except.bind, pure, Except.pure]

theorem serve_remove_of_refused {fault : Fault} (refused : atlas.address location = .error fault)
    (entity : String) (amount : Nat) :
    atlas.serve (.remove entity location amount) = (atlas, .refused fault) := by
  simp [serve, Atlas.remove, refused, bind, Except.bind]

/-- What a request can do to an atlas. -/
inductive Effect (atlas : Atlas) : Request → Atlas → Reply → Prop
  | idle {request : Request} {after : Atlas} {reply : Reply}
      (config : after.config = atlas.config) (territories : after.territories = atlas.territories)
      (splits : after.splits = atlas.splits) (merges : after.merges = atlas.merges)
      (insertions : insertions (request, reply) = 0) (removals : removals (request, reply) = 0) :
      Effect atlas request after reply
  | insert {entity : String} {location : Location} {address : Bucket.Address}
      (accepted : atlas.address location = .ok address) :
      Effect atlas (.insert entity location) (atlas.insertBucket entity address 1) .done
  | remove {entity : String} {location : Location} {address : Bucket.Address} {amount : Nat}
      (accepted : atlas.address location = .ok address) :
      Effect atlas (.remove entity location amount) (atlas.removeBucket entity address amount).1
        (.removed (atlas.removeBucket entity address amount).2)
  | mergeSweep {entity : String} {swept : Atlas} {merged : Nat}
      (done : atlas.mergeSweep? entity = some (swept, merged)) :
      Effect atlas (.mergeSweep entity) swept (.merged (some merged))
  | mergeAll : Effect atlas .mergeAll atlas.mergeAll.1 (.merged (some atlas.mergeAll.2))

theorem effect_serve (atlas : Atlas) (request : Request) :
    Effect atlas request (atlas.serve request).1 (atlas.serve request).2 := by
  cases request with
  | insert entity location =>
      cases accepted : atlas.address location with
      | error fault =>
          rw [serve_insert_of_refused accepted]
          exact .idle rfl rfl rfl rfl rfl rfl
      | ok address =>
          rw [serve_insert_of_accepted accepted]
          exact .insert accepted
  | remove entity location amount =>
      cases accepted : atlas.address location with
      | error fault =>
          rw [serve_remove_of_refused accepted]
          exact .idle rfl rfl rfl rfl rfl rfl
      | ok address =>
          rw [serve_remove_of_accepted accepted]
          exact .remove accepted
  | mergeSweep entity =>
      cases done : atlas.mergeSweep? entity with
      | none =>
          simp only [serve, done]
          exact .idle rfl rfl rfl rfl rfl rfl
      | some result =>
          simp only [serve, done]
          exact .mergeSweep done
  | mergeAll => exact .mergeAll
  | setOverride entity cells => exact .idle rfl rfl rfl rfl rfl rfl
  | clearOverride entity => exact .idle rfl rfl rfl rfl rfl rfl
  | read query => exact .idle rfl rfl rfl rfl rfl rfl

namespace Effect

theorem config (effect : Effect atlas request after reply) : after.config = atlas.config := by
  cases effect with
  | idle config => exact config
  | insert accepted => rfl
  | remove accepted => exact atlas.config_removeBucket _ _ _
  | mergeSweep done =>
      obtain rfl := eq_of_mergeSweep? done
      rfl
  | mergeAll =>
      refine mergeAll_induction (motive := fun after => after.config = atlas.config) rfl ?_
      intro current swept entity merged known done
      obtain rfl := eq_of_mergeSweep? done
      exact known

theorem wellFormed (effect : Effect atlas request after reply) (wellFormed : atlas.WellFormed) :
    after.WellFormed := by
  cases effect with
  | idle config territories =>
      refine ⟨config ▸ wellFormed.config, fun present => ?_⟩
      rw [territories] at present
      exact config ▸ wellFormed.territory present
  | insert accepted => exact wellFormed.insertBucket (sound_of_address accepted) Nat.one_pos _
  | remove accepted => exact wellFormed.removeBucket (sound_of_address accepted) _ _
  | mergeSweep done => exact ((Kept.refl wellFormed).mergeSweep done).wellFormed
  | mergeAll => exact wellFormed.mergeAll.wellFormed

theorem weigh (effect : Effect atlas request after reply) (wellFormed : atlas.WellFormed)
    (weight : String → String → Nat) :
    after.weigh weight + loss atlas.config weight (request, reply) =
      atlas.weigh weight + gain atlas.config weight (request, reply) := by
  cases effect with
  | idle config territories splits merges insertions removals =>
      rw [gain, loss, insertions, removals, Atlas.weigh, Atlas.weigh, territories, Nat.mul_zero]
  | insert accepted =>
      rw [wellFormed.weigh_insertBucket (sound_of_address accepted) Nat.one_pos, Nat.mul_one]
      simp only [gain, loss, weightOf, insertions, removals, keyOf?_of_accepted accepted,
        Nat.mul_one, Nat.mul_zero, Nat.add_zero]
  | @remove entity _ _ amount accepted =>
      have taken := wellFormed.weigh_removeBucket (sound_of_address accepted) weight entity amount
      simpa only [gain, loss, weightOf, insertions, removals, keyOf?_of_accepted accepted,
        Nat.mul_zero, Nat.add_zero] using taken
  | mergeSweep done => exact wellFormed.weigh_mergeSweep done weight
  | mergeAll =>
      exact wellFormed.mergeAll_induction
        (motive := fun after => after.weigh weight = atlas.weigh weight) rfl
        fun kept same done => (kept.wellFormed.weigh_mergeSweep done weight).trans same

end Effect

/-! ## Runs -/

theorem WellFormed.run (wellFormed : atlas.WellFormed) (requests : List Request) :
    (atlas.run requests).WellFormed ∧ (atlas.run requests).config = atlas.config := by
  induction requests generalizing atlas with
  | nil => exact ⟨wellFormed, rfl⟩
  | cons request requests induction =>
      have effect := atlas.effect_serve request
      obtain ⟨later, sameConfig⟩ := induction (effect.wellFormed wellFormed)
      exact ⟨later, sameConfig.trans effect.config⟩

theorem wellFormed_of_run {config : Config} {requests : List Request} {territory : Territory}
    (started : start config = .ok atlas)
    (present : (atlas.run requests).territories[entity]? = some territory) :
    territory.forest.WellFormed config.topLevel.toNat config.maxLevel.toNat := by
  obtain ⟨wellFormed, sameConfig⟩ := (WellFormed.start started).run requests
  obtain ⟨_, rfl⟩ := start_eq_ok_iff.mp started
  have known := wellFormed.territory present
  rwa [sameConfig] at known

/-- The trace of a run accounts for every change of the weight. -/
theorem WellFormed.weigh_run (wellFormed : atlas.WellFormed) (requests : List Request)
    (weight : String → String → Nat) : (atlas.run requests).weigh weight +
        ((atlas.trace requests).map (loss atlas.config weight)).sum =
      atlas.weigh weight + ((atlas.trace requests).map (gain atlas.config weight)).sum := by
  induction requests generalizing atlas with
  | nil => rfl
  | cons request requests induction =>
      have effect := atlas.effect_serve request
      have now := effect.weigh wellFormed weight
      have later := induction (effect.wellFormed wellFormed)
      rw [effect.config] at later
      simp only [trace, List.map_cons, List.sum_cons]
      change ((atlas.serve request).1.run requests).weigh weight + _ = _
      omega

end Atlas

end LoadAtlas
