import LoadAtlas.Proofs.Atlas.HighWater
import LoadAtlas.Proofs.Bucket.Key

/-!
# Hysteresis

A cell is split only with more clients inside than the split threshold, and stops being split
only with fewer than the merge threshold.  In between it may be folded into a cell around it
and come back by another way, but the clients inside are those that were counted there and not
taken away.  So from one change to the opposite one at least as many clients come or go as lie
between the two thresholds.
-/

namespace LoadAtlas

namespace Atlas

/-- Whether an entity has a cell and the cell was split. -/
def isSplit (atlas : Atlas) (entity : String) (id : CellId) : Bool :=
  (atlas.territoryOf entity).forest.isSplit id

/-- The number of clients of an entity inside a cell. -/
def clientsInside (atlas : Atlas) (entity : String) (id : CellId) : Nat :=
  (atlas.territoryOf entity).forest.clientsInside id

/-- The clients inside a cell of an entity that a request with its reply counted. -/
def insertedInside (config : Config) (entity : String) (id : CellId) : Request × Reply → Nat :=
  gain config (within entity (Bucket.inside id))

/-- The clients inside a cell of an entity that a request with its reply took away. -/
def removedInside (config : Config) (entity : String) (id : CellId) : Request × Reply → Nat :=
  loss config (within entity (Bucket.inside id))

/-- A request makes a cell of an entity a split one. -/
def Opens (atlas : Atlas) (request : Request) (entity : String) (id : CellId) : Prop :=
  atlas.isSplit entity id = false ∧ (atlas.serve request).1.isSplit entity id = true

/-- With a request a cell of an entity stops being a split one: it is a leaf again, or gone. -/
def Closes (atlas : Atlas) (request : Request) (entity : String) (id : CellId) : Prop :=
  atlas.isSplit entity id = true ∧ (atlas.serve request).1.isSplit entity id = false

variable {atlas after : Atlas} {entity : String} {id : CellId} {request : Request} {reply : Reply}

theorem clientsInside_eq_weigh (atlas : Atlas) (entity : String) (id : CellId) :
    atlas.clientsInside entity id = atlas.weigh (within entity (Bucket.inside id)) :=
  (atlas.weigh_within entity (Bucket.inside id)).symm

theorem clientsInside_run (wellFormed : atlas.WellFormed) (requests : List Request)
    (entity : String) (id : CellId) : (atlas.run requests).clientsInside entity id +
        ((atlas.trace requests).map (removedInside atlas.config entity id)).sum =
      atlas.clientsInside entity id +
        ((atlas.trace requests).map (insertedInside atlas.config entity id)).sum := by
  rw [clientsInside_eq_weigh, clientsInside_eq_weigh]
  exact wellFormed.weigh_run requests _

/-! ## Sweeps -/

/-- Sweeps split no cell, and of the split cells they end only those with few clients inside. -/
structure Thinned (mergeThreshold : Nat) (before after : Atlas) : Prop where
  inside : ∀ entity id, after.clientsInside entity id = before.clientsInside entity id
  isSplit : ∀ entity id, after.isSplit entity id = true → before.isSplit entity id = true
  few : ∀ entity id, before.isSplit entity id = true → after.isSplit entity id = false →
    before.clientsInside entity id < mergeThreshold

namespace Thinned

variable {mergeThreshold : Nat} {first second third : Atlas}

theorem refl (mergeThreshold : Nat) (atlas : Atlas) : Thinned mergeThreshold atlas atlas where
  inside _ _ := rfl
  isSplit _ _ split := split
  few _ _ split ended := absurd (split.symm.trans ended) Bool.noConfusion

theorem trans (earlier : Thinned mergeThreshold first second)
    (later : Thinned mergeThreshold second third) : Thinned mergeThreshold first third where
  inside entity id := (later.inside entity id).trans (earlier.inside entity id)
  isSplit entity id split := earlier.isSplit entity id (later.isSplit entity id split)
  few entity id split ended := by
    cases between : second.isSplit entity id with
    | true => exact earlier.inside entity id ▸ later.few entity id between ended
    | false => exact earlier.few entity id split between

end Thinned

theorem WellFormed.thinned_mergeSweep (wellFormed : atlas.WellFormed) {swept : Atlas} {merged : Nat}
    (done : atlas.mergeSweep? entity = some (swept, merged)) :
    Thinned atlas.config.mergeThreshold.toNat atlas swept := by
  have weighed := wellFormed.weigh_mergeSweep done
  obtain rfl := eq_of_mergeSweep? done
  have known := wellFormed.territoryOf entity
  have changed (other : String) := territoryOf_setTerritory atlas entity
    ((atlas.territoryOf entity).sweep atlas.config).1 other
  refine ⟨fun other id => ?_, fun other id split => ?_, fun other id split ended => ?_⟩
  · rw [clientsInside_eq_weigh, clientsInside_eq_weigh, weighed]
  · change ((atlas.setTerritory entity _).territoryOf other).forest.isSplit id = true at split
    rw [changed] at split
    split at split
    · rename_i here
      rw [isSplit, ← here]
      exact ((known.swept_sweep.isSplit_eq_true_iff known).mp split).1
    · exact split
  · change ((atlas.setTerritory entity _).territoryOf other).forest.isSplit id = false at ended
    rw [changed] at ended
    split at ended
    · rename_i here
      rw [isSplit, ← here] at split
      rw [clientsInside, ← here]
      exact known.swept_sweep.clientsInside_lt known split ended
    · exact absurd (split.symm.trans ended) Bool.noConfusion

theorem WellFormed.thinned_mergeAll (wellFormed : atlas.WellFormed) :
    Thinned atlas.config.mergeThreshold.toNat atlas atlas.mergeAll.1 := by
  refine wellFormed.mergeAll_induction (.refl _ _) ?_
  intro current swept entity merged kept thinned done
  have once := kept.wellFormed.thinned_mergeSweep done
  rw [kept.config] at once
  exact thinned.trans once

/-- A sweep leaves no cell split that has few clients inside. -/
theorem WellFormed.isSplit_mergeSweep (wellFormed : atlas.WellFormed)
    (few : atlas.clientsInside entity id < atlas.config.mergeThreshold.toNat) :
    (atlas.serve (.mergeSweep entity)).1.isSplit entity id = false := by
  have known := wellFormed.territoryOf entity
  by_contra notEnded
  have split := (Bool.not_eq_false _).mp notEnded
  cases done : atlas.mergeSweep? entity with
  | none =>
      have absent : atlas.territories[entity]? = none := by simpa [mergeSweep?] using done
      simp [serve, done, isSplit, territoryOf_of_absent absent, Forest.isSplit] at split
  | some result =>
      obtain ⟨swept, merged⟩ := result
      simp only [serve, done] at split
      obtain rfl := eq_of_mergeSweep? done
      change ((atlas.setTerritory entity _).territoryOf entity).forest.isSplit id = true at split
      rw [territoryOf_setTerritory, if_pos rfl] at split
      obtain ⟨splitBefore, many⟩ := (known.swept_sweep.isSplit_eq_true_iff known).mp split
      obtain ⟨cell, present, _⟩ := Forest.isSplit_iff.mp splitBefore
      rw [clientsInside, known.clientsInside_eq_clientsBelow
        (Forest.mem_cells_iff.mpr ⟨cell, present⟩)] at few
      omega

/-! ## Steps -/

/-- A cell of an entity is split only with many clients inside, and stops being split only with
few, none of which come or go with that. -/
structure Shifted (before after : Atlas) (entity : String) (id : CellId) : Prop where
  opened : before.isSplit entity id = false → after.isSplit entity id = true →
    before.config.splitThreshold.toNat < after.clientsInside entity id
  closed : before.isSplit entity id = true → after.isSplit entity id = false →
    before.clientsInside entity id < before.config.mergeThreshold.toNat ∧
      after.clientsInside entity id = before.clientsInside entity id

theorem Shifted.of_eq (same : after.isSplit entity id = atlas.isSplit entity id) :
    Shifted atlas after entity id where
  opened unsplit split := absurd (unsplit.symm.trans (same.symm.trans split)) Bool.noConfusion
  closed split ended := absurd (split.symm.trans (same.symm.trans ended)) Bool.noConfusion

theorem Thinned.shifted (thinned : Thinned atlas.config.mergeThreshold.toNat atlas after)
    (entity : String) (id : CellId) : Shifted atlas after entity id where
  opened unsplit split :=
    absurd (unsplit.symm.trans (thinned.isSplit entity id split)) Bool.noConfusion
  closed split ended := ⟨thinned.few entity id split ended, thinned.inside entity id⟩

theorem Quiet.shifted_insertBucket (quiet : atlas.Quiet) (wellFormed : atlas.WellFormed)
    {address : Bucket.Address} (addressSound : address.Sound) (entity other : String)
    (id : CellId) : Shifted atlas (atlas.insertBucket entity address 1) other id := by
  have changed := territoryOf_insertBucket atlas entity address 1 other
  by_cases here : entity = other
  · subst here
    rw [if_pos rfl] at changed
    have bounded := wellFormed.config.maxLevel_le_finestLevel
    have known := wellFormed.territoryOf entity
    obtain ⟨placed, _⟩ := known.place wellFormed.config addressSound Nat.one_pos
    have extended := known.extended_place wellFormed.config address 1
    have divided := (quiet entity).divided_insert address 1
    -- Placing the client splits no cell, and the cascade after it unites none.
    constructor
    · intro unsplit split
      rw [isSplit, changed] at split
      rw [clientsInside, changed, (divided.kept placed bounded).clientsInside]
      exact divided.lt_clientsInside placed bounded split ((extended.isSplit_eq id).trans unsplit)
    · intro split ended
      rw [isSplit, changed, divided.isSplit_of_isSplit placed bounded
        ((extended.isSplit_eq id).trans split)] at ended
      exact Bool.noConfusion ended
  · rw [if_neg here] at changed
    exact .of_eq (by rw [isSplit, changed, isSplit])

theorem WellFormed.shifted_removeBucket (wellFormed : atlas.WellFormed) (entity other : String)
    (address : Bucket.Address) (amount : Nat) (id : CellId) :
    Shifted atlas (atlas.removeBucket entity address amount).1 other id := by
  apply Shifted.of_eq
  rcases removeBucket_cases atlas entity address amount with same | changed
  · rw [same]
  · rw [changed, isSplit, isSplit, territoryOf_setTerritory]
    split
    · rename_i here
      rw [← here]
      exact (wellFormed.territoryOf entity).isSplit_remove wellFormed.config address amount id
    · rfl

theorem Effect.shifted (effect : Effect atlas request after reply) (wellFormed : atlas.WellFormed)
    (quiet : atlas.Quiet) (entity : String) (id : CellId) : Shifted atlas after entity id := by
  cases effect with
  | idle config territories =>
      exact .of_eq (by rw [isSplit, isSplit, territoryOf, territoryOf, territories])
  | insert accepted =>
      exact quiet.shifted_insertBucket wellFormed (sound_of_address accepted) _ entity id
  | remove accepted => exact wellFormed.shifted_removeBucket _ entity _ _ id
  | mergeSweep done => exact (wellFormed.thinned_mergeSweep done).shifted entity id
  | mergeAll => exact wellFormed.thinned_mergeAll.shifted entity id

theorem Reached.shifted {config : Config} (reached : Reached config atlas) (request : Request)
    (entity : String) (id : CellId) : Shifted atlas (atlas.serve request).1 entity id :=
  (atlas.effect_serve request).shifted reached.wellFormed reached.quiet entity id

/-! ## Runs -/

theorem run_append (atlas : Atlas) (first second : List Request) :
    atlas.run (first ++ second) = (atlas.run first).run second :=
  List.foldl_append

theorem run_concat (atlas : Atlas) (requests : List Request) (request : Request) :
    atlas.run (requests ++ [request]) = ((atlas.run requests).serve request).1 :=
  atlas.run_append requests [request]

theorem run_append_cons (atlas : Atlas) (first second : List Request) (request : Request) :
    atlas.run (first ++ request :: second) = (atlas.run (first ++ [request])).run second := by
  rw [← run_append, List.append_assoc, List.singleton_append]

/-- How many clients come or go before a cell changes back. -/
structure Damped (config : Config) (atlas : Atlas) (entity : String) (id : CellId) : Prop where
  /-- Between a split of a cell and its end, clients inside were taken away. -/
  cooling : ∀ (earlier : List Request) (opening : Request) (between : List Request)
    (closing : Request), (atlas.run earlier).Opens opening entity id →
      (atlas.run (earlier ++ opening :: between)).Closes closing entity id →
        config.splitThreshold.toNat - config.mergeThreshold.toNat + 2 ≤
          (((atlas.run (earlier ++ [opening])).trace between).map
            (removedInside config entity id)).sum
  /-- Between the end of a split cell and its next split, clients inside were counted. -/
  heating : ∀ (earlier : List Request) (closing : Request) (between : List Request)
    (opening : Request), (atlas.run earlier).Closes closing entity id →
      (atlas.run (earlier ++ closing :: between)).Opens opening entity id →
        config.splitThreshold.toNat - config.mergeThreshold.toNat + 2 ≤
          (((atlas.run (earlier ++ [closing])).trace (between ++ [opening])).map
            (insertedInside config entity id)).sum

/-- Whatever comes in between, a cell changes back only after enough clients came or went. -/
theorem damped_of_start {config : Config} (started : start config = .ok atlas) (entity : String)
    (id : CellId) : Damped config atlas entity id := by
  have reached (requests : List Request) : Reached config (atlas.run requests) :=
    (reached_of_start started).run requests
  have gap := (reached []).sound.mergeThreshold_lt_splitThreshold
  have shifted (requests : List Request) (request : Request) : Shifted (atlas.run requests)
      (atlas.run (requests ++ [request])) entity id := by
    rw [run_concat]
    exact (reached requests).shifted request entity id
  constructor
  · intro earlier opening between closing opens closes
    -- The number of clients inside fell from above the one threshold to below the other.
    have many := (shifted earlier opening).opened opens.1 (by rw [run_concat]; exact opens.2)
    have few := ((shifted (earlier ++ opening :: between) closing).closed closes.1
      (by rw [run_concat]; exact closes.2)).1
    have ledger := clientsInside_run (reached (earlier ++ [opening])).wellFormed between entity id
    rw [(reached _).config] at many few ledger
    rw [run_append_cons] at few
    omega
  · intro earlier closing between opening closes opens
    have few := (shifted earlier closing).closed closes.1 (by rw [run_concat]; exact closes.2)
    have many := (shifted (earlier ++ closing :: between) opening).opened opens.1
      (by rw [run_concat]; exact opens.2)
    have ledger := clientsInside_run (reached (earlier ++ [closing])).wellFormed
      (between ++ [opening]) entity id
    rw [(reached _).config] at many few ledger
    rw [run_concat, run_append_cons, ← run_concat] at many
    omega

/-! ## One bucket -/

/-- All clients of an entity inside a cell are in one bucket. -/
structure Sole (config : Config) (entity : String) (address : Bucket.Address) (id : CellId)
    (atlas : Atlas) (clients : Nat) : Prop where
  reached : Reached config atlas
  inside : atlas.clientsInside entity id = clients
  countOf : atlas.countOf entity address.key = clients

namespace Sole

variable {config : Config} {address : Bucket.Address} {location : Location} {clients : Nat}
  {requests : List Request}

theorem start (started : Atlas.start config = .ok atlas) :
    Sole config entity address id atlas 0 where
  reached := reached_of_start started
  inside := by
    obtain ⟨_, rfl⟩ := start_eq_ok_iff.mp started
    rw [clientsInside, territoryOf_of_absent (by simp)]
    exact Forest.weigh_empty _
  countOf := by
    obtain ⟨_, rfl⟩ := start_eq_ok_iff.mp started
    simp [Atlas.countOf]

section

variable (sole : Sole config entity address id atlas clients)

include sole

theorem mergeSweep :
    Sole config entity address id (atlas.serve (.mergeSweep entity)).1 clients := by
  have effect := atlas.effect_serve (.mergeSweep entity)
  have weighed (weight : String → String → Nat) :
      (atlas.serve (.mergeSweep entity)).1.weigh weight = atlas.weigh weight := by
    simpa [gain, loss, weightOf] using effect.weigh sole.reached.wellFormed weight
  refine ⟨effect.reached sole.reached, ?_, ?_⟩
  · rw [clientsInside_eq_weigh, weighed, ← clientsInside_eq_weigh, sole.inside]
  · rw [countOf_eq_weigh, weighed, ← countOf_eq_weigh, sole.countOf]

theorem isSplit_of_many (lowest : config.topLevel.toNat ≤ id.level)
    (room : id.level < config.maxLevel.toNat) (many : config.splitThreshold.toNat < clients) :
    atlas.isSplit entity id = true := by
  obtain rfl := sole.reached.config
  exact (sole.reached.wellFormed.territoryOf entity).isSplit_of_crowded
    (sole.reached.quiet entity).calm lowest room (many.trans_eq sole.inside.symm)

theorem isSplit_mergeSweep_of_few (few : clients < config.mergeThreshold.toNat) :
    (atlas.serve (.mergeSweep entity)).1.isSplit entity id = false := by
  obtain rfl := sole.reached.config
  exact sole.reached.wellFormed.isSplit_mergeSweep (sole.inside ▸ few)

/-- As long as there are many clients the cell stays split. -/
theorem isSplit_serve (split : atlas.isSplit entity id = true)
    (many : config.mergeThreshold.toNat ≤ clients) (request : Request) :
    (atlas.serve request).1.isSplit entity id = true := by
  by_contra ended
  have few := ((sole.reached.shifted request entity id).closed split (by simpa using ended)).1
  rw [sole.reached.config, sole.inside] at few
  omega

variable (accepted : Bucket.address location config.bucketPrecision.toNat = .ok address)
  (falls : address.location.FallsInto id)

include accepted

theorem address_eq_ok : atlas.address location = .ok address := by
  rw [Atlas.address, sole.reached.config, accepted]
  rfl

include falls

theorem insert : Sole config entity address id
    (atlas.serve (.insert entity location)).1 (clients + 1) := by
  have known := sole.address_eq_ok accepted
  have sound := sound_of_address known
  rw [serve_insert_of_accepted known]
  refine ⟨(Effect.insert known).reached sole.reached, ?_, ?_⟩
  · rw [clientsInside_eq_weigh, sole.reached.wellFormed.weigh_insertBucket sound Nat.one_pos,
      ← clientsInside_eq_weigh, sole.inside, within, if_pos rfl, Bucket.inside_of_located sound,
      if_pos falls]
  · rw [sole.reached.wellFormed.countOf_insertBucket sound Nat.one_pos, sole.countOf,
      if_pos ⟨rfl, rfl⟩]

/-- One client more does not split the cell as long as there are few. -/
theorem isSplit_insert_of_few (whole : atlas.isSplit entity id = false)
    (few : clients + 1 ≤ config.splitThreshold.toNat) :
    (atlas.serve (.insert entity location)).1.isSplit entity id = false := by
  by_contra opened
  have many := (sole.reached.shifted (.insert entity location) entity id).opened whole
    (by simpa using opened)
  rw [sole.reached.config, (sole.insert accepted falls).inside] at many
  omega

theorem remove (amount : Nat) : Sole config entity address id
    (atlas.serve (.remove entity location amount)).1 (clients - amount) := by
  have known := sole.address_eq_ok accepted
  have sound := sound_of_address known
  have taken := sole.reached.wellFormed.removeBucket_snd sound entity amount
  rw [sole.countOf] at taken
  rw [serve_remove_of_accepted known]
  change Sole config entity address id (atlas.removeBucket entity address amount).1 _
  refine ⟨(Effect.remove known).reached sole.reached, ?_, ?_⟩
  · have weighed := sole.reached.wellFormed.weigh_removeBucket sound
      (within entity (Bucket.inside id)) entity amount
    rw [← clientsInside_eq_weigh, ← clientsInside_eq_weigh, sole.inside, within, if_pos rfl,
      Bucket.inside_of_located sound, if_pos falls, taken] at weighed
    omega
  · have counted := sole.reached.wellFormed.countOf_removeBucket sound entity amount entity
      address.key
    rw [if_pos ⟨rfl, rfl⟩, sole.countOf, taken] at counted
    omega

/-- Clients come one after the other. -/
theorem insertAll (number : Nat) : Sole config entity address id
    (atlas.run (List.replicate number (.insert entity location))) (clients + number) := by
  induction number generalizing atlas clients with
  | zero => exact sole
  | succ number induction =>
      rw [← Nat.add_assoc, Nat.add_right_comm]
      exact induction (sole.insert accepted falls)

theorem isSplit_insertAll_of_few (whole : atlas.isSplit entity id = false) {number : Nat}
    (few : clients + number ≤ config.splitThreshold.toNat) :
    (atlas.run (List.replicate number (.insert entity location))).isSplit entity id = false := by
  induction number generalizing atlas clients with
  | zero => exact whole
  | succ number induction =>
      exact induction (sole.insert accepted falls)
        (sole.isSplit_insert_of_few accepted falls whole (by omega)) (by omega)

end

end Sole

/-- A cell with clients in one bucket alone changes back after no more of them came or went than
it takes: the two thresholds leave no other gap. -/
theorem opens_closes_opens {config : Config} (started : start config = .ok atlas)
    {location : Location} {address : Bucket.Address}
    (accepted : Bucket.address location config.bucketPrecision.toNat = .ok address)
    (falls : address.location.FallsInto id) (lowest : config.topLevel.toNat ≤ id.level)
    (room : id.level < config.maxLevel.toNat) (entity : String) :
    let high := config.splitThreshold.toNat
    let gap := high - config.mergeThreshold.toNat + 2
    let come : Request := .insert entity location
    let go : Request := .remove entity location gap
    let sweep : Request := .mergeSweep entity
    (atlas.run (List.replicate high come)).Opens come entity id ∧
      (atlas.run (List.replicate high come ++ come :: [go])).Closes sweep entity id ∧
        (atlas.run (List.replicate high come ++ [come, go] ++
          sweep :: List.replicate (gap - 1) come)).Opens come entity id := by
  intro high gap come go sweep
  have initial : Sole config entity address id atlas 0 := .start started
  have whole : atlas.isSplit entity id = false := by
    obtain ⟨_, rfl⟩ := start_eq_ok_iff.mp started
    rfl
  have between := initial.reached.sound.mergeThreshold_lt_splitThreshold
  have positive := initial.reached.sound.mergeThreshold_pos
  have full := initial.insertAll accepted falls high
  have crowded := full.insert accepted falls
  have left := crowded.remove accepted falls gap
  have swept := left.mergeSweep
  have again := swept.insertAll accepted falls (gap - 1)
  have splitCrowded := crowded.isSplit_of_many lowest room (by omega)
  have splitLeft := crowded.isSplit_serve splitCrowded (by omega) go
  have wholeSwept := left.isSplit_mergeSweep_of_few (by omega)
  have wholeAgain := swept.isSplit_insertAll_of_few accepted falls wholeSwept
    (show _ + (gap - 1) ≤ _ by omega)
  have splitAgain := (again.insert accepted falls).isSplit_of_many lowest room (by omega)
  rw [run_append, run_append, run_append]
  exact ⟨⟨initial.isSplit_insertAll_of_few accepted falls whole (by omega), splitCrowded⟩,
    ⟨splitLeft, wholeSwept⟩, wholeAgain, splitAgain⟩

/-- Three clients in one place split the cell around it, three have to go before a sweep ends
that, and three come before the cell is split again. -/
theorem damped_crowded :
    let config : Config := { Config.standard with splitThreshold := 2, mergeThreshold := 1 }
    let come : Request := .insert "api" ⟨2.35, 48.85⟩
    let go : Request := .remove "api" ⟨2.35, 48.85⟩ 3
    let sweep : Request := .mergeSweep "api"
    ∃ id : CellId, id.level = 8 ∧
      (run { config } [come, come]).Opens come "api" id ∧
        (run { config } ([come, come] ++ come :: [go])).Closes sweep "api" id ∧
          (run { config } ([come, come, come, go] ++ sweep :: [come, come])).Opens come "api" id ∧
            Damped config { config } "api" id := by
  intro config come go sweep
  have started : start config = .ok { config } := rfl
  obtain ⟨address, accepted⟩ : ∃ address, Bucket.address ⟨2.35, 48.85⟩ 9 = .ok address :=
    ⟨_, Bucket.address_eq_ok (by decide +kernel) (by decide) (by decide)⟩
  have level := address.location.level_cellAt (show 8 ≤ CellId.finestLevel by decide)
  have falls := address.location.fallsInto_cellAt (show 8 ≤ CellId.finestLevel by decide)
  obtain ⟨opens, closes, reopens⟩ := opens_closes_opens started accepted falls
    (by rw [level]; decide) (by rw [level]; decide) "api"
  exact ⟨_, level, opens, closes, reopens, damped_of_start started "api" _⟩

end Atlas

end LoadAtlas
