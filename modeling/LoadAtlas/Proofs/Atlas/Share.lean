import LoadAtlas.Proofs.Atlas.Bare

/-!
# Shares of an atlas

The share of an entity is what an atlas holds for it: its territory, under the configuration that
all have in common.  A request that names another entity leaves the share as it was, and so does
one about an override.  What any other request makes of the share, and what it is answered,
depends on the share alone, as long as no override is in the way.
-/

namespace LoadAtlas

namespace Atlas

/-- What an atlas holds for one entity. -/
structure Share where
  config : Config
  territory? : Option Territory

def share (atlas : Atlas) (entity : String) : Share :=
  ⟨atlas.config, atlas.territories[entity]?⟩

variable {atlas first second : Atlas} {entity other : String} {address : Bucket.Address}
  {amount : Nat}

/-! ## Requests that name another entity -/

theorem getElem?_insertBucket (atlas : Atlas) (entity : String) (address : Bucket.Address)
    (amount : Nat) (other : String) :
    (atlas.insertBucket entity address amount).territories[other]? = if entity = other then
        some ((atlas.territories[other]?.getD {}).insert atlas.config address amount).1
      else atlas.territories[other]? := by
  by_cases here : entity = other
  · subst here
    simp [insertBucket, setTerritory, Std.ExtTreeMap.getD_eq_getD_getElem?]
  · simp [insertBucket, setTerritory, Std.ExtTreeMap.getElem?_insert, here]

theorem getElem?_removeBucket (atlas : Atlas) (entity : String) (address : Bucket.Address)
    (amount : Nat) (other : String) :
    (atlas.removeBucket entity address amount).1.territories[other]? = if entity = other then
        atlas.territories[other]?.map fun territory =>
          (territory.remove atlas.config address amount).1
      else atlas.territories[other]? := by
  cases present : atlas.territories[entity]? with
  | none =>
      by_cases here : entity = other
      · subst here
        simp [removeBucket, present]
      · simp [removeBucket, present, here]
  | some territory =>
      by_cases here : entity = other
      · subst here
        simp [removeBucket, present, setTerritory]
      · simp [removeBucket, present, setTerritory, Std.ExtTreeMap.getElem?_insert, here]

theorem share_insertBucket_of_ne (different : other ≠ entity) :
    (atlas.insertBucket other address amount).share entity = atlas.share entity := by
  rw [share, getElem?_insertBucket, if_neg different]
  rfl

theorem share_removeBucket_of_ne (different : other ≠ entity) :
    (atlas.removeBucket other address amount).1.share entity = atlas.share entity := by
  rw [share, getElem?_removeBucket, if_neg different, config_removeBucket]
  rfl

theorem share_removeBuckets_of_ne (different : other ≠ entity) (entries : List (String × Bucket)) :
    (atlas.removeBuckets other entries).share entity = atlas.share entity :=
  List.foldlRecOn (motive := fun current => share current entity = atlas.share entity) entries _ rfl
    fun _ known _ _ => (share_removeBucket_of_ne different).trans known

theorem share_mergeSweep?_of_ne {swept : Atlas} {merged : Nat}
    (done : atlas.mergeSweep? other = some (swept, merged)) (different : other ≠ entity) :
    swept.share entity = atlas.share entity := by
  rw [share, getElem?_mergeSweep? done, if_neg different, eq_of_mergeSweep? done]
  rfl

theorem ne_of_not_concerns {request : Request} (apart : request.concerns entity = false)
    (named : request.entity? = some other) (keeps : request.changesOverride = false) :
    other ≠ entity := by
  rintro rfl
  simp [Request.concerns, named, keeps] at apart

/-- A request that is left out for an entity does not touch its share. -/
theorem Effect.share_eq {request : Request} {after : Atlas} {reply : Reply}
    (effect : Effect atlas request after reply) (apart : request.concerns entity = false) :
    after.share entity = atlas.share entity := by
  cases effect with
  | idle config territories => rw [share, share, config, territories]
  | insert accepted =>
      exact share_insertBucket_of_ne (ne_of_not_concerns apart rfl rfl)
  | remove accepted =>
      exact share_removeBucket_of_ne (ne_of_not_concerns apart rfl rfl)
  | mergeSweep done =>
      exact share_mergeSweep?_of_ne done (ne_of_not_concerns apart rfl rfl)
  | mergeAll => simp [Request.concerns, Request.changesOverride, Request.entity?] at apart

/-! ## Requests about the entity -/

section Alike

variable (same : first.share entity = second.share entity)

include same

theorem config_eq_of_share_eq : first.config = second.config :=
  congrArg Share.config same

theorem getElem?_eq_of_share_eq :
    first.territories[entity]? = second.territories[entity]? :=
  congrArg Share.territory? same

theorem address_eq_of_share_eq (location : Location) :
    first.address location = second.address location := by
  rw [address, address, config_eq_of_share_eq same]

theorem share_insertBucket_congr (name : String) (address : Bucket.Address) (amount : Nat) :
    (first.insertBucket name address amount).share entity =
      (second.insertBucket name address amount).share entity := by
  have config (atlas : Atlas) : (atlas.insertBucket name address amount).config = atlas.config :=
    rfl
  rw [share, share, config, config, getElem?_insertBucket, getElem?_insertBucket,
    config_eq_of_share_eq same, getElem?_eq_of_share_eq same]

theorem share_removeBucket_congr (name : String) (address : Bucket.Address) (amount : Nat) :
    (first.removeBucket name address amount).1.share entity =
      (second.removeBucket name address amount).1.share entity := by
  rw [share, share, config_removeBucket, config_removeBucket, getElem?_removeBucket,
    getElem?_removeBucket, config_eq_of_share_eq same, getElem?_eq_of_share_eq same]

theorem share_removeBuckets_congr (name : String) (entries : List (String × Bucket)) :
    (first.removeBuckets name entries).share entity =
      (second.removeBuckets name entries).share entity := by
  induction entries generalizing first second with
  | nil => exact same
  | cons entry entries induction =>
      exact induction (share_removeBucket_congr same name ⟨entry.1, entry.2.location⟩ entry.2.count)

theorem share_mergeAll_congr :
    first.mergeAll.1.share entity = second.mergeAll.1.share entity := by
  have config (atlas : Atlas) : atlas.mergeAll.1.config = atlas.config :=
    (Effect.mergeAll : Effect atlas .mergeAll atlas.mergeAll.1 _).config
  rw [share, share, config, config, getElem?_mergeAll, getElem?_mergeAll,
    config_eq_of_share_eq same, getElem?_eq_of_share_eq same]

/-- The clients that are taken out of the share are as many. -/
theorem removeBucket_snd_congr (address : Bucket.Address) (amount : Nat) :
    (first.removeBucket entity address amount).2 =
      (second.removeBucket entity address amount).2 := by
  have territory := getElem?_eq_of_share_eq same
  rw [removeBucket, removeBucket, territory, config_eq_of_share_eq same]
  cases second.territories[entity]? <;> rfl

theorem mergeSweep?_congr :
    (first.mergeSweep? entity).map (fun result => (result.1.share entity, result.2)) =
      (second.mergeSweep? entity).map fun result => (result.1.share entity, result.2) := by
  have territory := getElem?_eq_of_share_eq same
  rw [mergeSweep?, mergeSweep?, territory, config_eq_of_share_eq same, Option.map_map,
    Option.map_map]
  cases second.territories[entity]? with
  | none => rfl
  | some territory => simp [share, setTerritory, config_eq_of_share_eq same]

/-- Where no override is in the way, a query about an entity is answered from its share. -/
theorem answer_congr {query : Query} (named : query.entity? = some entity)
    (live : query.showsOverride = true →
      first.overrides[entity]? = none ∧ second.overrides[entity]? = none) :
    first.answer query = second.answer query := by
  have territory := getElem?_eq_of_share_eq same
  cases query with
  | centroids name =>
      obtain rfl : name = entity := Option.some.inj named
      obtain ⟨inFirst, inSecond⟩ := live rfl
      rw [answer, answer, centroids?, centroids?, inFirst, inSecond, territory]
  | weightedCentroids name =>
      obtain rfl : name = entity := Option.some.inj named
      obtain ⟨inFirst, inSecond⟩ := live rfl
      rw [answer, answer, weightedCentroids, weightedCentroids, inFirst, inSecond, territory]
  | distribution name =>
      obtain rfl : name = entity := Option.some.inj named
      obtain ⟨inFirst, inSecond⟩ := live rfl
      rw [answer, answer, distribution, distribution, weightedCentroids, weightedCentroids,
        inFirst, inSecond, territory]
  | isExploring name =>
      obtain rfl : name = entity := Option.some.inj named
      obtain ⟨inFirst, inSecond⟩ := live rfl
      rw [answer, answer, isExploring, isExploring, ← Std.ExtTreeMap.isSome_getElem?_eq_contains,
        ← Std.ExtTreeMap.isSome_getElem?_eq_contains, inFirst, inSecond]
  | clientCount name =>
      obtain rfl : name = entity := Option.some.inj named
      rw [answer, answer, clientCount?, clientCount?, territory]
  | topCells name =>
      obtain rfl : name = entity := Option.some.inj named
      rw [answer, answer, topCells?, topCells?, territory]
  | report name id =>
      obtain rfl : name = entity := Option.some.inj named
      rw [answer, answer, report?, report?, territory]
  | audit name =>
      obtain rfl : name = entity := Option.some.inj named
      rw [answer, answer, territory]
  | entities => simp [Query.entity?] at named
  | stats => simp [Query.entity?] at named

/-- What a request makes of a share depends on the share, and so does the reply to a request that
names the entity, if no override is in the way. -/
theorem serve_congr (request : Request) :
    (first.serve request).1.share entity = (second.serve request).1.share entity ∧
      (request.entity? = some entity → request.changesOverride = false →
        (request.showsOverride = true →
          first.overrides[entity]? = none ∧ second.overrides[entity]? = none) →
        (first.serve request).2 = (second.serve request).2) := by
  cases request with
  | insert name location =>
      have alike := address_eq_of_share_eq same location
      cases accepted : second.address location with
      | error fault =>
          rw [serve_insert_of_refused (alike.trans accepted), serve_insert_of_refused accepted]
          exact ⟨same, fun _ _ _ => rfl⟩
      | ok address =>
          rw [serve_insert_of_accepted (alike.trans accepted), serve_insert_of_accepted accepted]
          exact ⟨share_insertBucket_congr same name address 1, fun _ _ _ => rfl⟩
  | remove name location amount =>
      have alike := address_eq_of_share_eq same location
      cases accepted : second.address location with
      | error fault =>
          rw [serve_remove_of_refused (alike.trans accepted), serve_remove_of_refused accepted]
          exact ⟨same, fun _ _ _ => rfl⟩
      | ok address =>
          rw [serve_remove_of_accepted (alike.trans accepted), serve_remove_of_accepted accepted]
          refine ⟨share_removeBucket_congr same name address amount, fun named _ _ => ?_⟩
          obtain rfl : name = entity := Option.some.inj named
          exact congrArg Reply.removed (removeBucket_snd_congr same address amount)
  | mergeSweep name =>
      by_cases here : name = entity
      · subst here
        have swept := mergeSweep?_congr same
        cases inFirst : first.mergeSweep? name <;> cases inSecond : second.mergeSweep? name <;>
          simp_all [serve]
      · have apart : (Request.mergeSweep name).concerns entity = false := by
          simpa [Request.concerns, Request.changesOverride, Request.entity?] using here
        refine ⟨?_, fun named => absurd (Option.some.inj named) here⟩
        rw [(first.effect_serve _).share_eq apart, (second.effect_serve _).share_eq apart, same]
  | mergeAll => exact ⟨share_mergeAll_congr same, fun named => by simp [Request.entity?] at named⟩
  | setOverride name cells =>
      exact ⟨same, fun _ keeps => by simp [Request.changesOverride] at keeps⟩
  | clearOverride name => exact ⟨same, fun _ keeps => by simp [Request.changesOverride] at keeps⟩
  | read query =>
      exact ⟨same, fun named _ live => congrArg Reply.answered (answer_congr same named live)⟩

end Alike

/-! ## Overrides -/

theorem overrides_removeBucket (atlas : Atlas) (entity : String) (address : Bucket.Address)
    (amount : Nat) : (atlas.removeBucket entity address amount).1.overrides = atlas.overrides := by
  rcases atlas.removeBucket_cases entity address amount with same | changed
  · rw [same]
  · rw [changed]
    rfl

theorem overrides_removeBuckets (atlas : Atlas) (entity : String)
    (entries : List (String × Bucket)) :
    (atlas.removeBuckets entity entries).overrides = atlas.overrides :=
  List.foldlRecOn (motive := fun after : Atlas => after.overrides = atlas.overrides) entries _ rfl
    fun after known _ _ => (after.overrides_removeBucket entity _ _).trans known

/-- Only the requests about overrides change them. -/
theorem overrides_serve {request : Request} (keeps : request.changesOverride = false) :
    (atlas.serve request).1.overrides = atlas.overrides := by
  cases request with
  | insert name location =>
      cases accepted : atlas.address location with
      | error fault => rw [serve_insert_of_refused accepted]
      | ok address =>
          rw [serve_insert_of_accepted accepted]
          rfl
  | remove name location amount =>
      cases accepted : atlas.address location with
      | error fault => rw [serve_remove_of_refused accepted]
      | ok address =>
          rw [serve_remove_of_accepted accepted]
          exact atlas.overrides_removeBucket name address amount
  | mergeSweep name =>
      cases done : atlas.mergeSweep? name with
      | none => simp only [serve, done]
      | some result =>
          simp only [serve, done]
          rw [eq_of_mergeSweep? done]
          rfl
  | mergeAll =>
      refine mergeAll_induction (motive := fun after => after.overrides = atlas.overrides) rfl ?_
      intro current swept name merged known done
      rw [eq_of_mergeSweep? done]
      exact known
  | setOverride name cells => simp [Request.changesOverride] at keeps
  | clearOverride name => simp [Request.changesOverride] at keeps
  | read query => rfl

end Atlas

end LoadAtlas
