import LoadAtlas.Proofs.Window.InTurn

/-!
# Reckoning with overlapping requests

Between its two steps a request counts in the window and not yet in the atlas, and between the
steps of an expiry the atlas has given buckets that the window still counts.  Two equations
hold all the same, whatever comes in between.  The window counts what the open interval, the
waiting intervals and the intervals of the expiries under way count.  The atlas, together with
the requests that are landing, counts what the open interval, the waiting intervals and the
buckets still to be withdrawn count, and all shortfalls on top.

So once nothing is under way, the atlas counts as much more than the window as expiries asked
for in vain.  They ask in vain only if a request takes so long to land that its interval expires
before it; then it lands after all and is never withdrawn again.
-/

namespace LoadAtlas

/-! ## What is under way -/

def Landing.countOf (landing : Landing) (entity key : String) : Nat :=
  if landing.entity = entity ∧ landing.address.key = key then 1 else 0

/-- The requests with a key that an expiry has still to take out of the atlas. -/
def Leaving.countOf (leaving : Leaving) (entity key : String) : Nat :=
  if leaving.closed.entity = entity then Bucket.countIn leaving.buckets key else 0

def Shortfall.countOf (shortfall : Shortfall) (entity key : String) : Nat :=
  if shortfall.entity = entity ∧ shortfall.key = key then shortfall.amount else 0

namespace Overlap

/-- No request is between its two steps, and no expiry is under way. -/
def AtRest (overlap : Overlap) : Prop :=
  overlap.landing = [] ∧ overlap.leaving = []

def windowOf (overlap : Overlap) (entity key : String) : Nat :=
  (overlap.tracker.counter entity).window.buckets.countOf key

def atlasOf (overlap : Overlap) (entity key : String) : Nat :=
  overlap.tracker.atlas.countOf entity key

/-- The requests that were counted and are still to be charted. -/
def landingOf (overlap : Overlap) (entity key : String) : Nat :=
  (overlap.landing.map fun landing => landing.countOf entity key).sum

/-- The requests of the open interval and of the intervals that wait. -/
def lastingOf (overlap : Overlap) (entity key : String) : Nat :=
  (overlap.tracker.counter entity).interval.buckets.countOf key +
    ClosedInterval.countIn overlap.waiting entity key

/-- The requests of the intervals whose expiry is under way. -/
def expiringOf (overlap : Overlap) (entity key : String) : Nat :=
  (overlap.leaving.map fun leaving => leaving.closed.countOf entity key).sum

/-- What the expiries under way have still to take out of the atlas. -/
def leavingOf (overlap : Overlap) (entity key : String) : Nat :=
  (overlap.leaving.map fun leaving => leaving.countOf entity key).sum

/-- What expiries asked for in vain. -/
def missedOf (overlap : Overlap) (entity key : String) : Nat :=
  (overlap.shortfalls.map fun shortfall => shortfall.countOf entity key).sum

/-- The two equations, and what has to be true of all that is stored. -/
structure Tallied (overlap : Overlap) : Prop where
  atlas : overlap.tracker.atlas.WellFormed
  counter : ∀ entity, (overlap.tracker.counter entity).Sound
  landing : ∀ landing ∈ overlap.landing, landing.address.Sound
  waiting : ∀ closed ∈ overlap.waiting, closed.requests.Sound
  leaving : ∀ leaving ∈ overlap.leaving, leaving.closed.requests.Sound
  buckets : ∀ leaving ∈ overlap.leaving, ∀ entry ∈ leaving.buckets, entry.2.Sound entry.1
  divided : ∀ entity key, overlap.windowOf entity key =
    overlap.lastingOf entity key + overlap.expiringOf entity key
  charted : ∀ entity key, overlap.atlasOf entity key + overlap.landingOf entity key =
    overlap.lastingOf entity key + overlap.leavingOf entity key + overlap.missedOf entity key
  pending : overlap.tracker.pendingExpirations = overlap.waiting.length + overlap.leaving.length

end Overlap

theorem Leaving.countOf_eraseIdx (leaving : Leaving) {index : Nat} {entry : String × Bucket}
    (listed : leaving.buckets[index]? = some entry) (entity key : String) :
    (if leaving.closed.entity = entity ∧ entry.1 = key then entry.2.count else 0) +
        countOf { leaving with buckets := leaving.buckets.eraseIdx index } entity key =
      leaving.countOf entity key := by
  by_cases hit : leaving.closed.entity = entity
  · simp only [countOf, hit, true_and, ↓reduceIte]
    exact Bucket.countIn_eraseIdx listed key
  · simp [countOf, hit]

theorem BucketTable.toList_add_empty (key : String) (location : Location) (amount : Nat) :
    (BucketTable.add ∅ key location amount).toList = [(key, ⟨location, amount⟩)] := by
  simpa [add] using Table.toList_insert_empty key (⟨location, amount⟩ : Bucket)

/-! ## One step -/

namespace Overlap

variable {overlap : Overlap}

theorem Tallied.start {config : Config} {tracker : Tracker}
    (started : Tracker.start config = .ok tracker) : Tallied { tracker } := by
  obtain ⟨sound, rfl⟩ := Tracker.start_eq_ok_iff.mp started
  have nothing (entity : String) : Tracker.counter { atlas := { config } } entity = {} := by
    simp [Tracker.counter]
  refine ⟨.start (Atlas.start_eq_ok_iff.mpr ⟨sound, rfl⟩), fun entity => ?_, by simp, by simp,
    by simp, by simp, fun entity key => ?_, fun entity key => ?_, rfl⟩
  · rw [nothing]
    exact Counter.sound_empty
  · simp [windowOf, lastingOf, expiringOf, nothing, ClosedInterval.countIn]
  · simp [atlasOf, landingOf, lastingOf, leavingOf, missedOf, nothing, ClosedInterval.countIn,
      Atlas.countOf, BucketTable.countOf]

namespace Tallied

variable (tallied : overlap.Tallied)

include tallied

theorem count {address : Bucket.Address} (sound : address.Sound) (entity : String) :
    Tallied { overlap with
      tracker := overlap.tracker.count entity address
      landing := overlap.landing ++ [⟨entity, address⟩] } := by
  refine ⟨tallied.atlas, Tracker.sound_count tallied.counter sound entity, fun landing member => ?_,
    tallied.waiting, tallied.leaving, tallied.buckets, fun other key => ?_, fun other key => ?_,
    tallied.pending⟩
  · rcases List.mem_append.mp member with before | new
    · exact tallied.landing landing before
    · obtain rfl := List.mem_singleton.mp new
      exact sound
  · have divided := tallied.divided other key
    simp only [windowOf, lastingOf, expiringOf] at divided ⊢
    rw [Tracker.countOf_window_count, Tracker.countOf_interval_count]
    omega
  · have charted := tallied.charted other key
    simp only [atlasOf, landingOf, lastingOf, leavingOf, missedOf] at charted ⊢
    rw [Tracker.countOf_interval_count, List.map_append, List.sum_append, List.map_singleton,
      List.sum_singleton, Landing.countOf]
    change overlap.tracker.atlas.countOf other key +
      (_ + if entity = other ∧ address.key = key then 1 else 0) = _
    omega

theorem chart {request : Nat} {landing : Landing}
    (found : overlap.landing[request]? = some landing) : Tallied { overlap with
      tracker := overlap.tracker.chart landing.entity landing.address
      landing := overlap.landing.eraseIdx request } := by
  have sound := tallied.landing landing (List.mem_of_getElem? found)
  refine ⟨tallied.atlas.insertBucket sound Nat.one_pos landing.entity, tallied.counter,
    fun other waits => tallied.landing other (List.mem_of_mem_eraseIdx waits), tallied.waiting,
    tallied.leaving, tallied.buckets, tallied.divided, fun entity key => ?_, tallied.pending⟩
  have charted := tallied.charted entity key
  have charts := tallied.atlas.countOf_insertBucket sound Nat.one_pos landing.entity entity key
  have landed := sum_map_eraseIdx (fun landing : Landing => landing.countOf entity key) found
  rw [Landing.countOf] at landed
  simp only [atlasOf, landingOf, lastingOf, leavingOf, missedOf] at charted ⊢
  change (overlap.tracker.atlas.insertBucket landing.entity landing.address 1).countOf entity key +
    _ = _
  rw [charts]
  change _ = (overlap.tracker.counter entity).interval.buckets.countOf key + _ + _ + _
  omega

theorem close (entity : String) : (overlap.step (.close entity)).Tallied := by
  have atlas : (overlap.tracker.close entity).1.atlas = overlap.tracker.atlas := by
    rw [Tracker.close_fst]
  refine ⟨?_, overlap.tracker.sound_close entity tallied.counter, tallied.landing,
    fun closed member => ?_, tallied.leaving, tallied.buckets, fun other key => ?_,
    fun other key => ?_, ?_⟩
  · exact atlas ▸ tallied.atlas
  · rcases List.mem_append.mp member with waited | fresh
    · exact tallied.waiting closed waited
    · exact overlap.tracker.sound_of_close entity tallied.counter fresh
  · have divided := tallied.divided other key
    have moved := overlap.tracker.countOf_close entity other key
    simp only [windowOf, lastingOf, expiringOf, step] at divided ⊢
    rw [Tracker.window_close, ClosedInterval.countIn_append]
    omega
  · have charted := tallied.charted other key
    have moved := overlap.tracker.countOf_close entity other key
    simp only [atlasOf, landingOf, lastingOf, leavingOf, missedOf, step] at charted ⊢
    rw [atlas, ClosedInterval.countIn_append]
    omega
  · have pending := tallied.pending
    simp only [step, List.length_append, Tracker.close_fst]
    omega

theorem begin {interval : Nat} {closed : ClosedInterval}
    (found : overlap.waiting[interval]? = some closed) : Tallied { overlap with
      waiting := overlap.waiting.eraseIdx interval
      leaving := overlap.leaving ++ [⟨closed, closed.requests.buckets.toList⟩] } := by
  have sound := tallied.waiting closed (List.mem_of_getElem? found)
  have moved := ClosedInterval.countIn_eraseIdx found
  refine ⟨tallied.atlas, tallied.counter, tallied.landing,
    fun other waits => tallied.waiting other (List.mem_of_mem_eraseIdx waits),
    fun leaving member => ?_, fun leaving member => ?_, fun entity key => ?_, fun entity key => ?_,
    ?_⟩
  · rcases List.mem_append.mp member with before | new
    · exact tallied.leaving leaving before
    · obtain rfl := List.mem_singleton.mp new
      exact sound
  · rcases List.mem_append.mp member with before | new
    · exact tallied.buckets leaving before
    · obtain rfl := List.mem_singleton.mp new
      exact fun entry listed => sound.buckets entry.1 entry.2
        (Std.ExtTreeMap.mem_toList_iff_getElem?_eq_some.mp listed)
  · have divided := tallied.divided entity key
    have less := moved entity key
    simp only [windowOf, lastingOf, expiringOf, List.map_append, List.sum_append,
      List.map_singleton, List.sum_singleton] at divided ⊢
    omega
  · have charted := tallied.charted entity key
    have less := moved entity key
    rw [ClosedInterval.countOf] at less
    simp only [atlasOf, landingOf, lastingOf, leavingOf, missedOf, List.map_append,
      List.sum_append, List.map_singleton, List.sum_singleton, Leaving.countOf,
      Bucket.countIn_toList] at charted ⊢
    omega
  · obtain ⟨bound, _⟩ := List.getElem?_eq_some_iff.mp found
    have pending := tallied.pending
    simp only [List.length_append, List.length_eraseIdx_of_lt bound, List.length_singleton]
    omega

theorem forget {expiry : Nat} {leaving : Leaving} (found : overlap.leaving[expiry]? = some leaving)
    (done : leaving.buckets = []) : Tallied { overlap with
      tracker := overlap.tracker.forget leaving.closed
      leaving := overlap.leaving.eraseIdx expiry } := by
  have member := List.mem_of_getElem? found
  have expired (entity key : String) :=
    sum_map_eraseIdx (fun leaving : Leaving => leaving.closed.countOf entity key) found
  have covered (key : String) : leaving.closed.requests.buckets.countOf key ≤
      (overlap.tracker.counter leaving.closed.entity).window.buckets.countOf key := by
    have divided := tallied.divided leaving.closed.entity key
    have share := expired leaving.closed.entity key
    rw [ClosedInterval.countOf, if_pos rfl] at share
    simp only [windowOf, expiringOf] at divided
    omega
  have less := overlap.tracker.countOf_window_forget covered
  have opened (entity : String) := overlap.tracker.interval_forget leaving.closed entity
  refine ⟨tallied.atlas, overlap.tracker.sound_forget covered tallied.counter
      (tallied.leaving leaving member), tallied.landing, tallied.waiting,
    fun other rest => tallied.leaving other (List.mem_of_mem_eraseIdx rest),
    fun other rest => tallied.buckets other (List.mem_of_mem_eraseIdx rest),
    fun entity key => ?_, fun entity key => ?_, ?_⟩
  · have divided := tallied.divided entity key
    have share := expired entity key
    have left := less entity key
    simp only [windowOf, lastingOf, expiringOf, opened] at divided ⊢
    omega
  · have charted := tallied.charted entity key
    have rest := sum_map_eraseIdx (fun leaving : Leaving => leaving.countOf entity key) found
    have nothing : leaving.countOf entity key = 0 := by
      simp [Leaving.countOf, done, Bucket.countIn]
    simp only [atlasOf, landingOf, lastingOf, leavingOf, missedOf, opened] at charted ⊢
    change overlap.tracker.atlas.countOf entity key + _ = _
    omega
  · obtain ⟨bound, _⟩ := List.getElem?_eq_some_iff.mp found
    have pending := tallied.pending
    change overlap.tracker.pendingExpirations - 1 =
      overlap.waiting.length + (overlap.leaving.eraseIdx expiry).length
    rw [List.length_eraseIdx_of_lt bound]
    omega

end Tallied

section Withdraw

variable {expiry bucket : Nat} {leaving : Leaving} {entry : String × Bucket}

theorem missedOf_withdraw (entity key : String) :
    (overlap.withdraw expiry leaving bucket entry).missedOf entity key =
      overlap.missedOf entity key +
        if leaving.closed.entity = entity ∧ entry.1 = key then
          entry.2.count - (overlap.tracker.atlas.removeBucket leaving.closed.entity
            ⟨entry.1, entry.2.location⟩ entry.2.count).2
        else 0 := by
  simp [missedOf, withdraw, Shortfall.countOf]

variable (found : overlap.leaving[expiry]? = some leaving)

include found

theorem expiringOf_withdraw (entity key : String) :
    (overlap.withdraw expiry leaving bucket entry).expiringOf entity key =
      overlap.expiringOf entity key :=
  Nat.add_right_cancel <|
    sum_map_set (fun leaving : Leaving => leaving.closed.countOf entity key) found
      { leaving with buckets := leaving.buckets.eraseIdx bucket }

variable (listed : leaving.buckets[bucket]? = some entry)

include listed

theorem leavingOf_withdraw (entity key : String) :
    (overlap.withdraw expiry leaving bucket entry).leavingOf entity key +
        (if leaving.closed.entity = entity ∧ entry.1 = key then entry.2.count else 0) =
      overlap.leavingOf entity key := by
  have split := leaving.countOf_eraseIdx listed entity key
  have rest : (overlap.withdraw expiry leaving bucket entry).leavingOf entity key +
      leaving.countOf entity key = overlap.leavingOf entity key +
        Leaving.countOf { leaving with buckets := leaving.buckets.eraseIdx bucket } entity key :=
    sum_map_set (fun leaving : Leaving => leaving.countOf entity key) found _
  omega

variable (tallied : overlap.Tallied)

include tallied

theorem removeBucket_withdraw : (overlap.tracker.atlas.removeBucket leaving.closed.entity
    ⟨entry.1, entry.2.location⟩ entry.2.count).2 =
      min entry.2.count (overlap.atlasOf leaving.closed.entity entry.1) := by
  have sound := tallied.buckets leaving (List.mem_of_getElem? found) entry
    (List.mem_of_getElem? listed)
  exact tallied.atlas.removeBucket_snd sound.address leaving.closed.entity entry.2.count

/-- An expiry asks in vain for no more requests than are landing beyond those that the open and
the waiting intervals count. -/
theorem missedOf_withdraw_le (entity key : String) :
    (overlap.withdraw expiry leaving bucket entry).missedOf entity key ≤
      overlap.missedOf entity key +
        (overlap.landingOf entity key - overlap.lastingOf entity key) := by
  rw [missedOf_withdraw, removeBucket_withdraw found listed tallied]
  have asked := leavingOf_withdraw found listed entity key
  have charted := tallied.charted entity key
  by_cases hit : leaving.closed.entity = entity ∧ entry.1 = key
  · -- What is asked for is among what is still to be withdrawn, which the atlas has in full
    -- unless requests are landing.
    obtain ⟨rfl, rfl⟩ := hit
    simp only [and_self, ↓reduceIte] at asked ⊢
    omega
  · rw [if_neg hit]
    omega

theorem Tallied.withdraw : (overlap.withdraw expiry leaving bucket entry).Tallied := by
  have member := List.mem_of_getElem? found
  have sound := (tallied.buckets leaving member entry (List.mem_of_getElem? listed)).address
  refine ⟨tallied.atlas.removeBucket sound _ _, tallied.counter, tallied.landing, tallied.waiting,
    fun other after => ?_, fun other after => ?_, fun entity key => ?_, fun entity key => ?_, ?_⟩
  · rcases List.mem_or_eq_of_mem_set after with before | rfl
    · exact tallied.leaving other before
    · exact tallied.leaving leaving member
  · rcases List.mem_or_eq_of_mem_set after with before | rfl
    · exact tallied.buckets other before
    · exact fun rest kept => tallied.buckets leaving member rest (List.mem_of_mem_eraseIdx kept)
  · rw [expiringOf_withdraw found]
    exact tallied.divided entity key
  · have charted := tallied.charted entity key
    have taken : (overlap.withdraw expiry leaving bucket entry).atlasOf entity key +
        (if leaving.closed.entity = entity ∧ entry.1 = key then
          (overlap.tracker.atlas.removeBucket leaving.closed.entity
            ⟨entry.1, entry.2.location⟩ entry.2.count).2 else 0) = overlap.atlasOf entity key :=
      tallied.atlas.countOf_removeBucket sound leaving.closed.entity entry.2.count entity key
    have asked := leavingOf_withdraw found listed entity key
    rw [missedOf_withdraw]
    rw [removeBucket_withdraw found listed tallied] at taken ⊢
    change _ + overlap.landingOf entity key = overlap.lastingOf entity key + _ + _
    by_cases hit : leaving.closed.entity = entity ∧ entry.1 = key
    · rw [if_pos hit] at taken asked ⊢
      omega
    · rw [if_neg hit] at taken asked ⊢
      omega
  · exact tallied.pending.trans (congrArg _ List.length_set.symm)

end Withdraw

theorem Tallied.mergeSweep (tallied : overlap.Tallied) {entity : String} {result : Atlas × Nat}
    (done : overlap.tracker.atlas.mergeSweep? entity = some result) :
    (overlap.withAtlas result.1).Tallied := by
  obtain ⟨atlas, config, counts⟩ := (Atlas.Kept.refl tallied.atlas).mergeSweep done
  refine ⟨atlas, tallied.counter, tallied.landing, tallied.waiting, tallied.leaving,
    tallied.buckets, tallied.divided, fun entity key => ?_, tallied.pending⟩
  have charted := tallied.charted entity key
  rwa [atlasOf, ← counts] at charted

theorem Tallied.step (tallied : overlap.Tallied) (step : Step) : (overlap.step step).Tallied := by
  cases step with
  | count entity location =>
      cases accepted : overlap.tracker.accept entity location with
      | error fault => simpa only [Overlap.step, accepted] using tallied
      | ok address =>
          simp only [Overlap.step, accepted]
          exact tallied.count (Tracker.sound_of_accept accepted) entity
  | chart request =>
      cases found : overlap.landing[request]? with
      | none => simpa only [Overlap.step, found] using tallied
      | some landing =>
          simp only [Overlap.step, found]
          exact tallied.chart found
  | close entity => exact tallied.close entity
  | turn => exact ⟨tallied.atlas, tallied.counter, tallied.landing, tallied.waiting,
      tallied.leaving, tallied.buckets, tallied.divided, tallied.charted, tallied.pending⟩
  | begin interval =>
      cases found : overlap.waiting[interval]? with
      | none => simpa only [Overlap.step, found] using tallied
      | some closed =>
          simp only [Overlap.step, found]
          exact tallied.begin found
  | withdraw expiry bucket =>
      cases found : overlap.leaving[expiry]? with
      | none => simpa only [Overlap.step, found] using tallied
      | some leaving =>
          cases listed : leaving.buckets[bucket]? with
          | none => simpa only [Overlap.step, found, listed] using tallied
          | some entry =>
              simp only [Overlap.step, found, listed]
              exact Tallied.withdraw found listed tallied
  | forget expiry =>
      cases found : overlap.leaving[expiry]? with
      | none => simpa only [Overlap.step, found] using tallied
      | some leaving =>
          by_cases done : leaving.buckets = []
          · simp only [Overlap.step, found, done, List.isEmpty_nil, ↓reduceIte]
            exact tallied.forget found done
          · simpa [Overlap.step, found, done] using tallied
  | mergeSweep entity =>
      cases done : overlap.tracker.atlas.mergeSweep? entity with
      | none => simpa only [Overlap.step, done] using tallied
      | some result =>
          simp only [Overlap.step, done]
          exact tallied.mergeSweep done

/-- Only an expiry that overtakes landing requests asks in vain. -/
theorem Tallied.missedOf_step_le (tallied : overlap.Tallied) (step : Step) (entity key : String) :
    (overlap.step step).missedOf entity key ≤ overlap.missedOf entity key +
      (overlap.landingOf entity key - overlap.lastingOf entity key) := by
  have same (after : Overlap) (kept : after.shortfalls = overlap.shortfalls) :
      after.missedOf entity key ≤ overlap.missedOf entity key +
        (overlap.landingOf entity key - overlap.lastingOf entity key) := by
    rw [missedOf, kept]
    exact Nat.le_add_right _ _
  cases step with
  | withdraw expiry bucket =>
      cases found : overlap.leaving[expiry]? with
      | none => exact same _ (by simp only [Overlap.step, found])
      | some leaving =>
          cases listed : leaving.buckets[bucket]? with
          | none => exact same _ (by simp only [Overlap.step, found, listed])
          | some entry =>
              simp only [Overlap.step, found, listed]
              exact missedOf_withdraw_le found listed tallied entity key
  | count | chart | close | turn | begin | forget | mergeSweep =>
      refine same _ ?_
      simp only [Overlap.step]
      repeat' split
      all_goals rfl

/-! ## Runs -/

theorem Tallied.run (tallied : overlap.Tallied) (steps : List Step) :
    (overlap.run steps).Tallied :=
  List.foldlRecOn (motive := Tallied) steps Overlap.step tallied
    fun _ known step _ => known.step step

theorem missedOf_eq_zero_iff : (∀ entity key, overlap.missedOf entity key = 0) ↔
    ∀ shortfall ∈ overlap.shortfalls, shortfall.amount = 0 := by
  constructor
  · intro nothing shortfall member
    have share : shortfall.countOf shortfall.entity shortfall.key ≤
        overlap.missedOf shortfall.entity shortfall.key :=
      List.single_le_sum (fun _ _ => Nat.zero_le _) _ (List.mem_map_of_mem member)
    rw [nothing, Shortfall.countOf, if_pos ⟨rfl, rfl⟩] at share
    exact Nat.le_zero.mp share
  · intro nothing entity key
    refine List.sum_eq_zero fun amount listed => ?_
    obtain ⟨shortfall, member, rfl⟩ := List.mem_map.mp listed
    rw [Shortfall.countOf, nothing shortfall member, ite_self]

/-- If no request ever lands so late that its interval no longer waits, no expiry of a run asks
in vain. -/
theorem Tallied.missedOf_run_eq_zero (tallied : overlap.Tallied)
    (nothing : ∀ entity key, overlap.missedOf entity key = 0) {steps : List Step}
    (prompt : ∀ done, done <+: steps → ∀ entity key,
      (overlap.run done).landingOf entity key ≤ (overlap.run done).lastingOf entity key)
    (entity key : String) : (overlap.run steps).missedOf entity key = 0 := by
  induction steps using List.reverseRecOn with
  | nil => exact nothing entity key
  | append_singleton done step induction =>
      have before := induction fun earlier first => prompt earlier
        (first.trans (List.prefix_append done [step]))
      have late := prompt done (List.prefix_append done [step]) entity key
      have added := (tallied.run done).missedOf_step_le step entity key
      rw [run_append]
      change ((overlap.run done).step step).missedOf entity key = 0
      omega

/-- What is known of the stores of a tracker whose requests, rotations and expiries overlap. -/
structure Reckoned (overlap : Overlap) (steps : List Step) : Prop where
  /-- The window counts what is open, what waits and what is about to expire. -/
  divided : ∀ entity key : String, (overlap.run steps).windowOf entity key =
    (overlap.run steps).lastingOf entity key + (overlap.run steps).expiringOf entity key
  /-- With the requests that are landing, the atlas counts what is open, what waits, what is
  still to be withdrawn and what was asked for in vain. -/
  charted : ∀ entity key : String,
    (overlap.run steps).atlasOf entity key + (overlap.run steps).landingOf entity key =
      (overlap.run steps).lastingOf entity key + (overlap.run steps).leavingOf entity key +
        (overlap.run steps).missedOf entity key
  /-- At rest the atlas counts what the window counts and what was asked for in vain. -/
  surplus : (overlap.run steps).AtRest → ∀ entity key : String,
    (overlap.run steps).atlasOf entity key =
      (overlap.run steps).windowOf entity key + (overlap.run steps).missedOf entity key
  /-- At rest the two are in lockstep if and only if every expiry got what it asked for. -/
  lockstep : (overlap.run steps).AtRest →
    ((∀ entity key : String,
        (overlap.run steps).windowOf entity key = (overlap.run steps).atlasOf entity key) ↔
      ∀ shortfall ∈ (overlap.run steps).shortfalls, shortfall.amount = 0)
  /-- A step asks in vain for no more than the requests that are landing beyond those of the open
  and the waiting intervals. -/
  overtaking : ∀ (done : List Step) (step : Step), done ++ [step] <+: steps →
    ∀ entity key : String, (overlap.run (done ++ [step])).missedOf entity key ≤
      (overlap.run done).missedOf entity key +
        ((overlap.run done).landingOf entity key - (overlap.run done).lastingOf entity key)
  /-- The two are in lockstep at rest, and an empty window means a drained atlas, if no request
  ever lands so late that its interval no longer waits. -/
  prompt : (∀ done, done <+: steps → ∀ entity key : String,
      (overlap.run done).landingOf entity key ≤ (overlap.run done).lastingOf entity key) →
    (overlap.run steps).AtRest →
      (∀ entity key : String,
        (overlap.run steps).windowOf entity key = (overlap.run steps).atlasOf entity key) ∧
      ∀ entity : String, (overlap.run steps).tracker.load entity = 0 →
        ∀ key : String, (overlap.run steps).atlasOf entity key = 0
  pending : (overlap.run steps).tracker.pendingExpirations =
    (overlap.run steps).waiting.length + (overlap.run steps).leaving.length

theorem Tallied.atlasOf_of_atRest (tallied : overlap.Tallied) (atRest : overlap.AtRest)
    (entity key : String) : overlap.atlasOf entity key =
      overlap.windowOf entity key + overlap.missedOf entity key := by
  obtain ⟨landed, left⟩ := atRest
  have divided := tallied.divided entity key
  have charted := tallied.charted entity key
  have landing : overlap.landingOf entity key = 0 := by rw [landingOf, landed]; rfl
  have leaving : overlap.leavingOf entity key = 0 := by rw [leavingOf, left]; rfl
  have expiring : overlap.expiringOf entity key = 0 := by rw [expiringOf, left]; rfl
  omega

/-- Nothing is counted for an entity whose load is zero. -/
theorem Tallied.windowOf_of_load_eq_zero (tallied : overlap.Tallied) {entity : String}
    (idle : overlap.tracker.load entity = 0) (key : String) : overlap.windowOf entity key = 0 := by
  rw [Tracker.load_eq] at idle
  exact (tallied.counter entity).window.balanced.countOf_eq_zero (by simpa [Tally.isEmpty]) key

/-- However the steps of requests, rotations and expiries overlap, the stores of a tracker differ
at rest by what expiries asked for in vain, and they do so only after one overtook a request. -/
theorem reckoned_of_start {config : Config} {tracker : Tracker}
    (started : Tracker.start config = .ok tracker) (steps : List Step) :
    Reckoned { tracker } steps := by
  have tallied := Tallied.start started
  have after := tallied.run steps
  refine ⟨after.divided, after.charted, after.atlasOf_of_atRest, fun atRest => ?_,
    fun done step first entity key => ?_, fun prompt atRest => ?_, after.pending⟩
  · rw [← missedOf_eq_zero_iff]
    refine forall₂_congr fun entity key => ?_
    rw [after.atlasOf_of_atRest atRest]
    omega
  · rw [run_append]
    exact (tallied.run done).missedOf_step_le step entity key
  · have nothing := tallied.missedOf_run_eq_zero (fun _ _ => rfl) prompt
    have same (entity key : String) := after.atlasOf_of_atRest atRest entity key
    refine ⟨fun entity key => ?_, fun entity idle key => ?_⟩
    · rw [same, nothing, Nat.add_zero]
    · rw [same, nothing, after.windowOf_of_load_eq_zero idle]

/-- A request that lands while its expiry is under way. -/
theorem reckoned_standard : Reckoned { tracker := { atlas := { config := Config.standard } } }
    [.count "api" ⟨2.35, 48.85⟩, .count "web" ⟨-74.0, 40.7⟩, .close "api", .chart 1, .begin 0,
      .withdraw 0 0, .chart 0, .forget 0, .mergeSweep "api"] :=
  have started : Tracker.start Config.standard = .ok { atlas := { config := Config.standard } } :=
    rfl
  reckoned_of_start started _

/-! ## A request that is overtaken -/

/-- The steps of a request that is overtaken by the expiry of its interval. -/
def overtaking (entity : String) (location : Location) : List Step :=
  [.count entity location, .close entity, .turn, .begin 0, .withdraw 0 0, .forget 0, .chart 0]

section Overtaken

variable {config : Config} {entity : String} {location : Location} {address : Bucket.Address}
  (accepted : Tracker.accept { atlas := { config } } entity location = .ok address)

include accepted

theorem run_overtaking : ∃ counter : Counter, counter.window.total = 0 ∧
    run { tracker := { atlas := { config } } } (overtaking entity location) =
      { tracker :=
          { atlas := Atlas.insertBucket { config } entity address 1
            counters := (∅ : Std.ExtTreeMap String Counter).insert entity counter
            recorded := 1
            rotations := 1 }
        shortfalls := [⟨entity, address.key, 1⟩] } := by
  have modified (first second : Counter) (change : Counter → Counter) :
      (((∅ : Std.ExtTreeMap String Counter).insert entity first).insert entity second).modify entity
        change = (∅ : Std.ExtTreeMap String Counter).insert entity (change second) := by
    apply Std.ExtTreeMap.ext_getElem?
    intro other
    by_cases hit : entity = other <;> simp [Std.ExtTreeMap.getElem?_modify, hit]
  let counted : Tally := Tally.add {} address.key address.location 1
  refine ⟨{ window := counted.subtract counted }, Nat.sub_self _, ?_⟩
  simp [overtaking, run, step, accepted, Tracker.count, Tracker.close, Tally.isEmpty, withdraw,
    withAtlas, Atlas.removeBucket, Tracker.forget, BucketTable.toList_add_empty, Tracker.turn,
    Tracker.chart, modified]
  rfl

/-- A request that lands after its interval expired stays in the atlas, though its entity has no
load any more. -/
theorem charted_of_overtaken (sound : config.Sound) :
    (run { tracker := { atlas := { config } } } (overtaking entity location)).AtRest ∧
      (run { tracker := { atlas := { config } } } (overtaking entity location)).tracker.load
        entity = 0 ∧
      (run { tracker := { atlas := { config } } } (overtaking entity location)).windowOf entity
        address.key = 0 ∧
      (run { tracker := { atlas := { config } } } (overtaking entity location)).atlasOf entity
        address.key = 1 := by
  obtain ⟨counter, nothing, outcome⟩ := run_overtaking accepted
  have tallied := (Tallied.start (Tracker.start_eq_ok_iff.mpr ⟨sound, rfl⟩)).run
    (overtaking entity location)
  have idle : (run { tracker := { atlas := { config } } } (overtaking entity location)).tracker.load
      entity = 0 := by
    simp [outcome, Tracker.load, nothing]
  have atRest : (run { tracker := { atlas := { config } } }
      (overtaking entity location)).AtRest := by
    rw [outcome]
    exact ⟨rfl, rfl⟩
  have window := tallied.windowOf_of_load_eq_zero idle address.key
  refine ⟨atRest, idle, window, ?_⟩
  rw [tallied.atlasOf_of_atRest atRest, window, outcome]
  simp [missedOf, Shortfall.countOf]

end Overtaken

/-- So an idle entity does not mean that its part of the atlas has drained. -/
theorem overtaken_standard :
    let after := run { tracker := { atlas := { config := Config.standard } } }
      (overtaking "api" ⟨2.35, 48.85⟩)
    after.AtRest ∧ after.tracker.load "api" = 0 ∧
      ∃ key : String, after.windowOf "api" key = 0 ∧ after.atlasOf "api" key = 1 := by
  intro after
  obtain ⟨address, accepted⟩ := Tracker.exists_accept_standard
  obtain ⟨atRest, idle, window, atlas⟩ := charted_of_overtaken accepted rfl
  exact ⟨atRest, idle, address.key, window, atlas⟩

end Overlap

end LoadAtlas
