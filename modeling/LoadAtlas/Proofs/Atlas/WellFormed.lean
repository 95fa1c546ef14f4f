import LoadAtlas.Atlas.Run
import LoadAtlas.Proofs.Atlas.Territory
import LoadAtlas.Proofs.Bucket.Expiry

/-!
# Well-formed atlases

An atlas is well formed if its configuration is sound and all its territories are well formed
under it.  It starts so, and every request leaves it so.  Each change says what it does to the
number of clients that an entity has with a key: counting adds one, a removal takes off what it
replies, and nothing else has an effect.
-/

namespace LoadAtlas

namespace Atlas

/-- The clients of an entity with a key, in all cells of its territory together. -/
def countOf (atlas : Atlas) (entity key : String) : Nat :=
  match atlas.territories[entity]? with
  | some territory => territory.forest.countOf key
  | none => 0

/-- The territory of an entity, which is empty for an entity that was not seen. -/
def territoryOf (atlas : Atlas) (entity : String) : Territory :=
  atlas.territories.getD entity {}

/-- All clients, each with the weight of its entity and its key. -/
def weigh (weight : String → String → Nat) (atlas : Atlas) : Nat :=
  Table.sum (fun entity territory => territory.forest.weigh (weight entity)) atlas.territories

/-- The weight that counts the clients of one entity only. -/
def within (entity : String) (weight : String → Nat) : String → String → Nat :=
  fun other key => if other = entity then weight key else 0

structure WellFormed (atlas : Atlas) : Prop where
  config : atlas.config.Sound
  territory : ∀ {entity : String} {territory : Territory},
    atlas.territories[entity]? = some territory → territory.WellFormed atlas.config

theorem WellFormed.start {config : Config} {atlas : Atlas} (started : start config = .ok atlas) :
    atlas.WellFormed := by
  obtain ⟨sound, rfl⟩ := start_eq_ok_iff.mp started
  exact ⟨sound, fun present => by simp at present⟩

variable {atlas : Atlas} {entity other key : String} {territory : Territory}
  {address : Bucket.Address} {amount : Nat}

theorem countOf_of_present (present : atlas.territories[entity]? = some territory) (key : String) :
    atlas.countOf entity key = territory.forest.countOf key := by
  rw [countOf, present]

theorem sound_of_address {location : Location} (accepted : atlas.address location = .ok address) :
    address.Sound := by
  cases found : Bucket.address location atlas.config.bucketPrecision.toNat with
  | error fault => simp [Atlas.address, found, Except.mapError] at accepted
  | ok known =>
      obtain rfl : known = address := by
        simpa [Atlas.address, found, Except.mapError] using accepted
      exact Bucket.sound_of_address found

/-! ## Another territory -/

theorem territoryOf_of_present (present : atlas.territories[entity]? = some territory) :
    atlas.territoryOf entity = territory := by
  rw [territoryOf, Std.ExtTreeMap.getD_eq_getD_getElem?, present, Option.getD_some]

theorem territoryOf_of_absent (absent : atlas.territories[entity]? = none) :
    atlas.territoryOf entity = {} := by
  rw [territoryOf, Std.ExtTreeMap.getD_eq_getD_getElem?, absent, Option.getD_none]

theorem territoryOf_setTerritory (atlas : Atlas) (entity : String) (territory : Territory)
    (other : String) : (atlas.setTerritory entity territory).territoryOf other =
      if entity = other then territory else atlas.territoryOf other := by
  by_cases same : entity = other <;>
    simp [territoryOf, setTerritory, Std.ExtTreeMap.getD_insert, same]

/-- Another territory changes a sum over all territories by the difference of the two. -/
theorem sum_setTerritory (measure : String → Territory → Nat) (atlas : Atlas) (entity : String)
    (territory : Territory) (unseen : measure entity {} = 0) :
    Table.sum measure (atlas.setTerritory entity territory).territories +
        measure entity (atlas.territoryOf entity) =
      Table.sum measure atlas.territories + measure entity territory := by
  cases present : atlas.territories[entity]? with
  | none =>
      rw [territoryOf_of_absent present, unseen]
      exact Table.sum_insert_of_absent measure present territory
  | some old =>
      rw [territoryOf_of_present present]
      exact Table.sum_insert_of_present measure present territory

theorem weigh_setTerritory (weight : String → String → Nat) (atlas : Atlas) (entity : String)
    (territory : Territory) : (atlas.setTerritory entity territory).weigh weight +
        (atlas.territoryOf entity).forest.weigh (weight entity) =
      atlas.weigh weight + territory.forest.weigh (weight entity) :=
  sum_setTerritory (fun entity territory => territory.forest.weigh (weight entity)) atlas entity
    territory (Forest.weigh_empty _)

theorem weigh_within (atlas : Atlas) (entity : String) (weight : String → Nat) :
    atlas.weigh (within entity weight) = (atlas.territoryOf entity).forest.weigh weight := by
  have apart {other : String} (different : other ≠ entity) :
      within entity weight other = fun _ => 0 :=
    funext fun _ => if_neg different
  have same : within entity weight entity = weight := funext fun _ => if_pos rfl
  rw [weigh, Table.sum_eq_measureAt _ entity]
  · cases present : atlas.territories[entity]? with
    | none =>
        rw [Table.measureAt, present, territoryOf_of_absent present]
        exact (Forest.weigh_empty weight).symm
    | some territory => rw [Table.measureAt, present, territoryOf_of_present present, same]
  · intro other territory _ different
    rw [apart different, Forest.weigh_zero]

theorem countOf_eq_weigh (atlas : Atlas) (entity key : String) :
    atlas.countOf entity key = atlas.weigh (within entity (BucketTable.only key)) := by
  rw [weigh_within, ← Forest.countOf_eq_weigh, countOf]
  cases present : atlas.territories[entity]? with
  | none =>
      rw [territoryOf_of_absent present]
      exact (Table.sum_empty _).symm
  | some territory => rw [territoryOf_of_present present]

theorem within_only_mul (entity other key found : String) (amount : Nat) :
    within other (BucketTable.only key) entity found * amount =
      if entity = other ∧ found = key then amount else 0 := by
  by_cases sameEntity : entity = other <;> by_cases sameKey : found = key <;>
    simp [within, BucketTable.only, sameEntity, sameKey]

theorem WellFormed.setTerritory (wellFormed : atlas.WellFormed)
    (changed : territory.WellFormed atlas.config) (entity : String) :
    (atlas.setTerritory entity territory).WellFormed where
  config := wellFormed.config
  territory {other found} present := by
    by_cases same : entity = other
    · obtain rfl : territory = found := by
        simpa [Atlas.setTerritory, same] using present
      exact changed
    · have elsewhere : atlas.territories[other]? = some found := by
        simpa [Atlas.setTerritory, Std.ExtTreeMap.getElem?_insert, same] using present
      exact wellFormed.territory elsewhere

theorem WellFormed.territoryOf (wellFormed : atlas.WellFormed) (entity : String) :
    (atlas.territoryOf entity).WellFormed atlas.config := by
  cases present : atlas.territories[entity]? with
  | none =>
      rw [territoryOf_of_absent present]
      exact Territory.wellFormed_empty _
  | some territory =>
      rw [territoryOf_of_present present]
      exact wellFormed.territory present

/-! ## Counting clients -/

theorem territoryOf_insertBucket (atlas : Atlas) (entity : String) (address : Bucket.Address)
    (amount : Nat) (other : String) : (atlas.insertBucket entity address amount).territoryOf other =
      if entity = other then ((atlas.territoryOf entity).insert atlas.config address amount).1
      else atlas.territoryOf other :=
  territoryOf_setTerritory atlas entity _ other

section Counting

variable (wellFormed : atlas.WellFormed) (addressSound : address.Sound) (positive : 0 < amount)

include wellFormed addressSound positive

theorem WellFormed.insertBucket (entity : String) :
    (atlas.insertBucket entity address amount).WellFormed := by
  obtain ⟨counted, _⟩ :=
    (wellFormed.territoryOf entity).insert wellFormed.config addressSound positive
  have changed := wellFormed.setTerritory counted entity
  exact ⟨changed.config, changed.territory⟩

theorem WellFormed.weigh_insertBucket (weight : String → String → Nat) (entity : String) :
    (atlas.insertBucket entity address amount).weigh weight =
      atlas.weigh weight + weight entity address.key * amount := by
  obtain ⟨_, weighed⟩ :=
    (wellFormed.territoryOf entity).insert wellFormed.config addressSound positive
  have changed := weigh_setTerritory weight atlas entity
    ((atlas.territoryOf entity).insert atlas.config address amount).1
  have inserted : (atlas.insertBucket entity address amount).weigh weight =
      (atlas.setTerritory entity
        ((atlas.territoryOf entity).insert atlas.config address amount).1).weigh weight := rfl
  rw [weighed] at changed
  omega

/-- Counting clients adds them to their entity and their key, and to no other. -/
theorem WellFormed.countOf_insertBucket (entity other key : String) :
    (atlas.insertBucket entity address amount).countOf other key =
      atlas.countOf other key + if entity = other ∧ address.key = key then amount else 0 := by
  rw [countOf_eq_weigh, wellFormed.weigh_insertBucket addressSound positive, ← countOf_eq_weigh,
    within_only_mul]

end Counting

/-! ## Taking clients away -/

/-- A removal changes nothing, or it changes the territory of its entity. -/
theorem removeBucket_cases (atlas : Atlas) (entity : String) (address : Bucket.Address)
    (amount : Nat) : atlas.removeBucket entity address amount = (atlas, 0) ∨
      atlas.removeBucket entity address amount =
        (atlas.setTerritory entity
            ((atlas.territoryOf entity).remove atlas.config address amount).1,
          ((atlas.territoryOf entity).remove atlas.config address amount).2) := by
  cases present : atlas.territories[entity]? with
  | none => exact .inl (by simp only [Atlas.removeBucket, present])
  | some territory =>
      rw [territoryOf_of_present present]
      exact .inr (by simp only [Atlas.removeBucket, present])

theorem config_removeBucket (atlas : Atlas) (entity : String) (address : Bucket.Address)
    (amount : Nat) : (atlas.removeBucket entity address amount).1.config = atlas.config := by
  rcases removeBucket_cases atlas entity address amount with same | changed
  · rw [same]
  · rw [changed]
    rfl

theorem config_removeBuckets (atlas : Atlas) (entity : String)
    (entries : List (String × Bucket)) :
    (atlas.removeBuckets entity entries).config = atlas.config :=
  List.foldlRecOn (motive := fun after : Atlas => after.config = atlas.config) entries _ rfl
    fun after known _ _ => (after.config_removeBucket entity _ _).trans known

theorem WellFormed.removeBucket (wellFormed : atlas.WellFormed) (addressSound : address.Sound)
    (entity : String) (amount : Nat) : (atlas.removeBucket entity address amount).1.WellFormed := by
  rcases removeBucket_cases atlas entity address amount with same | changed
  · rwa [same]
  · rw [changed]
    exact wellFormed.setTerritory ((wellFormed.territoryOf entity).remove wellFormed.config
      addressSound amount).1 entity

/-- As many clients are taken as there are, up to the amount asked for. -/
theorem WellFormed.removeBucket_snd (wellFormed : atlas.WellFormed) (addressSound : address.Sound)
    (entity : String) (amount : Nat) : (atlas.removeBucket entity address amount).2 =
      min amount (atlas.countOf entity address.key) := by
  cases present : atlas.territories[entity]? with
  | none => simp [Atlas.removeBucket, countOf, present]
  | some territory =>
      obtain ⟨_, _, amountTaken⟩ :=
        (wellFormed.territory present).remove wellFormed.config addressSound amount
      simp only [Atlas.removeBucket, countOf, present]
      exact amountTaken

theorem WellFormed.weigh_removeBucket (wellFormed : atlas.WellFormed)
    (addressSound : address.Sound) (weight : String → String → Nat) (entity : String)
    (amount : Nat) :
    (atlas.removeBucket entity address amount).1.weigh weight +
        weight entity address.key * (atlas.removeBucket entity address amount).2 =
      atlas.weigh weight := by
  rcases removeBucket_cases atlas entity address amount with same | changed
  · rw [same, Nat.mul_zero, Nat.add_zero]
  · obtain ⟨_, weighed, _⟩ :=
      (wellFormed.territoryOf entity).remove wellFormed.config addressSound amount
    have difference := weigh_setTerritory weight atlas entity
      ((atlas.territoryOf entity).remove atlas.config address amount).1
    rw [← weighed] at difference
    simp only [changed]
    omega

/-- What is taken is missing from its entity and its key afterwards, and from no other. -/
theorem WellFormed.countOf_removeBucket (wellFormed : atlas.WellFormed)
    (addressSound : address.Sound) (entity : String) (amount : Nat) (other key : String) :
    (atlas.removeBucket entity address amount).1.countOf other key +
        (if entity = other ∧ address.key = key then
          (atlas.removeBucket entity address amount).2 else 0) =
      atlas.countOf other key := by
  rw [countOf_eq_weigh, countOf_eq_weigh, ← wellFormed.weigh_removeBucket addressSound _ entity,
    within_only_mul]

/-! ## Taking whole buckets away -/

section Buckets

variable {entries : List (String × Bucket)}

theorem WellFormed.removeBuckets (wellFormed : atlas.WellFormed)
    (sound : ∀ entry ∈ entries, entry.2.Sound entry.1) (entity : String) :
    (atlas.removeBuckets entity entries).WellFormed :=
  List.foldlRecOn (motive := WellFormed) entries _ wellFormed fun _ known entry member =>
    known.removeBucket (sound entry member).address entity entry.2.count

/-- Buckets that are all there are taken in full. -/
theorem WellFormed.countOf_removeBuckets (wellFormed : atlas.WellFormed)
    (sound : ∀ entry ∈ entries, entry.2.Sound entry.1)
    (covered : ∀ key, Bucket.countIn entries key ≤ atlas.countOf entity key) (other key : String) :
    (atlas.removeBuckets entity entries).countOf other key +
        (if entity = other then Bucket.countIn entries key else 0) = atlas.countOf other key := by
  induction entries generalizing atlas with
  | nil => simp [Atlas.removeBuckets, Bucket.countIn]
  | cons entry entries induction =>
      obtain ⟨entrySound, restSound⟩ := List.forall_mem_cons.mp sound
      have enough : entry.2.count ≤ atlas.countOf entity entry.1 := by
        have whole := covered entry.1
        rw [Bucket.countIn_cons, if_pos rfl] at whole
        omega
      obtain ⟨left, removed⟩ : ∃ left, left =
          (atlas.removeBucket entity ⟨entry.1, entry.2.location⟩ entry.2.count).1 := ⟨_, rfl⟩
      have counts (other key : String) : left.countOf other key +
          (if entity = other ∧ entry.1 = key then entry.2.count else 0) =
            atlas.countOf other key := by
        have count := wellFormed.countOf_removeBucket entrySound.address entity entry.2.count other
          key
        rwa [wellFormed.removeBucket_snd entrySound.address, Nat.min_eq_left enough, ← removed]
          at count
      have known : left.WellFormed :=
        removed ▸ wellFormed.removeBucket entrySound.address entity entry.2.count
      have stillCovered : ∀ key, Bucket.countIn entries key ≤ left.countOf entity key := by
        intro key
        have whole := covered key
        have count := counts entity key
        rw [Bucket.countIn_cons] at whole
        simp only [true_and] at count
        omega
      have rest := induction known restSound stillCovered
      have count := counts other key
      rw [Atlas.removeBuckets, List.foldl_cons, ← removed, Bucket.countIn_cons]
      change (left.removeBuckets entity entries).countOf other key + _ = _
      by_cases hit : entity = other
      · simp only [hit, true_and, ↓reduceIte] at rest count ⊢
        omega
      · simp only [hit, false_and, ↓reduceIte] at rest count ⊢
        omega

/-- When it is the turn of one of the buckets, it is still there in full. -/
theorem WellFormed.removeBucket_snd_of_covered {done rest : List (String × Bucket)}
    {entry : String × Bucket} (wellFormed : atlas.WellFormed)
    (sound : ∀ other ∈ done ++ entry :: rest, other.2.Sound other.1)
    (covered : ∀ key, Bucket.countIn (done ++ entry :: rest) key ≤ atlas.countOf entity key) :
    ((atlas.removeBuckets entity done).removeBucket entity ⟨entry.1, entry.2.location⟩
      entry.2.count).2 = entry.2.count := by
  obtain ⟨doneSound, laterSound⟩ := List.forall_mem_append.mp sound
  have entrySound := laterSound entry List.mem_cons_self
  have whole := covered entry.1
  have doneCovered : ∀ key, Bucket.countIn done key ≤ atlas.countOf entity key := by
    intro key
    have all := covered key
    rw [Bucket.countIn_append] at all
    omega
  have left := wellFormed.countOf_removeBuckets doneSound doneCovered entity entry.1
  have known := wellFormed.removeBuckets doneSound entity
  rw [Bucket.countIn_append, Bucket.countIn_cons, if_pos rfl] at whole
  rw [if_pos rfl] at left
  refine (known.removeBucket_snd entrySound.address entity entry.2.count).trans ?_
  apply Nat.min_eq_left
  change entry.2.count ≤ (atlas.removeBuckets entity done).countOf entity entry.1
  omega

end Buckets

/-! ## Sweeps -/

/-- A well-formed atlas that came out of another one without a change to its configuration or
to the number of any clients. -/
structure Kept (before after : Atlas) : Prop where
  wellFormed : after.WellFormed
  config : after.config = before.config
  countOf : ∀ entity key, after.countOf entity key = before.countOf entity key

theorem Kept.refl (wellFormed : atlas.WellFormed) : Kept atlas atlas :=
  ⟨wellFormed, rfl, fun _ _ => rfl⟩

theorem eq_of_mergeSweep? {swept : Atlas} {merged : Nat}
    (done : atlas.mergeSweep? entity = some (swept, merged)) :
    swept = { atlas.setTerritory entity ((atlas.territoryOf entity).sweep atlas.config).1 with
      merges := atlas.merges + ((atlas.territoryOf entity).sweep atlas.config).2 } := by
  cases present : atlas.territories[entity]? with
  | none => simp [mergeSweep?, present] at done
  | some territory =>
      rw [territoryOf_of_present present]
      simp only [mergeSweep?, present, Option.map_some, Option.some.injEq, Prod.mk.injEq] at done
      exact done.1.symm

theorem WellFormed.weigh_mergeSweep (wellFormed : atlas.WellFormed) {swept : Atlas} {merged : Nat}
    (done : atlas.mergeSweep? entity = some (swept, merged)) (weight : String → String → Nat) :
    swept.weigh weight = atlas.weigh weight := by
  obtain rfl := eq_of_mergeSweep? done
  obtain ⟨_, weighed⟩ := (wellFormed.territoryOf entity).sweep
  have changed := weigh_setTerritory weight atlas entity
    ((atlas.territoryOf entity).sweep atlas.config).1
  rw [weighed] at changed
  exact Nat.add_right_cancel changed

theorem Kept.mergeSweep {before swept : Atlas} {merged : Nat} (kept : Kept before atlas)
    (done : atlas.mergeSweep? entity = some (swept, merged)) : Kept before swept := by
  have weighed := kept.wellFormed.weigh_mergeSweep done
  obtain rfl := eq_of_mergeSweep? done
  obtain ⟨changed, _⟩ := (kept.wellFormed.territoryOf entity).sweep
  have wellFormed := kept.wellFormed.setTerritory changed entity
  refine ⟨⟨wellFormed.config, wellFormed.territory⟩, kept.config, fun other key => ?_⟩
  rw [← kept.countOf, countOf_eq_weigh, countOf_eq_weigh, weighed]

/-- What every merge of one territory keeps, the merge of all territories keeps. -/
theorem mergeAll_induction {motive : Atlas → Prop} (start : motive atlas)
    (step : ∀ {current swept : Atlas} {entity : String} {merged : Nat}, motive current →
      current.mergeSweep? entity = some (swept, merged) → motive swept) :
    motive atlas.mergeAll.1 := by
  unfold Atlas.mergeAll
  refine List.foldlRecOn (motive := fun state : Atlas × Nat => motive state.1)
    atlas.territories.keys _ start fun state known entity _ => ?_
  cases done : state.1.mergeSweep? entity with
  | none => simpa only [done] using known
  | some result => simpa only [done] using step known done

theorem WellFormed.mergeAll (wellFormed : atlas.WellFormed) : Kept atlas atlas.mergeAll.1 :=
  Atlas.mergeAll_induction (.refl wellFormed) fun kept done => kept.mergeSweep done

theorem WellFormed.mergeAll_induction {motive : Atlas → Prop} (wellFormed : atlas.WellFormed)
    (start : motive atlas)
    (step : ∀ {current swept : Atlas} {entity : String} {merged : Nat}, Kept atlas current →
      motive current → current.mergeSweep? entity = some (swept, merged) → motive swept) :
    motive atlas.mergeAll.1 :=
  (Atlas.mergeAll_induction (motive := fun after => Kept atlas after ∧ motive after)
    ⟨.refl wellFormed, start⟩
    fun both done => ⟨both.1.mergeSweep done, step both.1 both.2 done⟩).2

end Atlas

end LoadAtlas
