import LoadAtlas.Proofs.Bucket.Breakdown
import LoadAtlas.Proofs.Window.Counter
import LoadAtlas.Window.Decay

/-!
# Decay in lockstep

A request is counted in three places: in the window of its entity, in the entity's open
interval and in the atlas.  A rotation moves the interval's requests to the waiting intervals,
and an expiry takes the requests of one of them out of the window and out of the atlas.  The
window therefore counts what the open interval and the waiting intervals of its entity count
together, and the atlas counts the same, however the leaves were split or merged in between.

As each waiting interval counts no more than all of them together, no removal ever asks for more
than is there, whichever interval expires next.
-/

namespace LoadAtlas

/-! ## One step -/

namespace Decay

/-- The three stores of a tracker hold the same requests, each as it should. -/
structure InStep (decay : Decay) : Prop where
  atlas : decay.tracker.atlas.WellFormed
  window : ∀ entity, (decay.tracker.counter entity).window.Sound
  interval : ∀ entity, (decay.tracker.counter entity).interval.Sound
  waiting : ∀ closed ∈ decay.waiting, closed.requests.Sound
  /-- The window counts what the open interval and the waiting ones count. -/
  divided : ∀ entity key, (decay.tracker.counter entity).window.buckets.countOf key =
    (decay.tracker.counter entity).interval.buckets.countOf key +
      ClosedInterval.countIn decay.waiting entity key
  /-- The atlas counts what the window counts. -/
  charted : ∀ entity key, (decay.tracker.counter entity).window.buckets.countOf key =
    decay.tracker.atlas.countOf entity key
  pending : decay.tracker.pendingExpirations = decay.waiting.length

variable {decay : Decay} {closed : ClosedInterval}

theorem InStep.start {config : Config} {tracker : Tracker}
    (started : Tracker.start config = .ok tracker) : InStep { tracker } := by
  obtain ⟨sound, rfl⟩ := Tracker.start_eq_ok_iff.mp started
  have nothing (entity : String) : Tracker.counter { atlas := { config } } entity = {} := by
    simp [Tracker.counter]
  refine ⟨.start (Atlas.start_eq_ok_iff.mpr ⟨sound, rfl⟩), fun entity => ?_, fun entity => ?_,
    by simp, fun entity key => ?_, fun entity key => ?_, rfl⟩
  · rw [nothing]
    exact Tally.sound_empty
  · rw [nothing]
    exact Tally.sound_empty
  · rw [nothing]
    simp [ClosedInterval.countIn]
  · rw [nothing]
    simp [Atlas.countOf, BucketTable.countOf]

theorem InStep.counter (inStep : decay.InStep) (entity : String) :
    (decay.tracker.counter entity).Sound :=
  ⟨inStep.window entity, inStep.interval entity⟩

/-- A waiting interval counts nothing that the window of its entity does not count. -/
theorem InStep.covered (inStep : decay.InStep) (member : closed ∈ decay.waiting) (key : String) :
    closed.requests.buckets.countOf key ≤
      (decay.tracker.counter closed.entity).window.buckets.countOf key := by
  have share := ClosedInterval.countOf_le_countIn member closed.entity key
  rw [ClosedInterval.countOf, if_pos rfl] at share
  have whole := inStep.divided closed.entity key
  omega

theorem InStep.withAtlas (inStep : decay.InStep) {atlas : Atlas}
    (kept : Atlas.Kept decay.tracker.atlas atlas) : (decay.withAtlas atlas).InStep where
  atlas := kept.wellFormed
  window := inStep.window
  interval := inStep.interval
  waiting := inStep.waiting
  divided := inStep.divided
  charted entity key := (inStep.charted entity key).trans (kept.countOf entity key).symm
  pending := inStep.pending

/-- A request is counted once in the window, in the open interval and in the atlas. -/
theorem InStep.record (inStep : decay.InStep) {address : Bucket.Address} (sound : address.Sound)
    (entity : String) : InStep { decay with
      tracker := (decay.tracker.count entity address).chart entity address } := by
  have charts := inStep.atlas.countOf_insertBucket sound Nat.one_pos entity
  have counts := decay.tracker.countOf_window_count entity address
  have known := Tracker.sound_count inStep.counter sound entity
  refine ⟨inStep.atlas.insertBucket sound Nat.one_pos entity, fun other => (known other).window,
    fun other => (known other).interval, inStep.waiting, fun other key => ?_, fun other key => ?_,
    inStep.pending⟩
  · have divided := inStep.divided other key
    have opened := decay.tracker.countOf_interval_count entity address other key
    rw [Tracker.counter_chart, counts, opened, divided]
    exact Nat.add_right_comm _ _ _
  · rw [Tracker.counter_chart, counts, inStep.charted other key]
    exact (charts other key).symm

/-- A rotation moves requests from the open intervals to waiting ones. -/
theorem InStep.rotate (inStep : decay.InStep) : InStep {
    tracker := decay.tracker.rotate.1
    waiting := decay.waiting ++ decay.tracker.rotate.2 } := by
  have emptied (entity : String) :=
    decay.tracker.countOf_interval_rotate (inStep.interval entity).balanced
  have sameWindow (entity : String) : (decay.tracker.rotate.1.counter entity).window =
      (decay.tracker.counter entity).window := by
    rw [Tracker.counter_rotate]
    split <;> rfl
  refine ⟨inStep.atlas, fun entity => ?_, fun entity => ?_, fun closed member => ?_,
    fun entity key => ?_, fun entity key => ?_, ?_⟩
  · rw [sameWindow]
    exact inStep.window entity
  · rw [Tracker.counter_rotate]
    split
    · exact inStep.interval entity
    · exact Tally.sound_empty
  · rcases List.mem_append.mp member with waited | fresh
    · exact inStep.waiting closed waited
    · exact Tracker.sound_of_rotate inStep.interval fresh
  · have moved := Tracker.countIn_rotate decay.tracker entity key fun other =>
      (inStep.interval other).balanced
    rw [sameWindow, emptied, inStep.divided, ClosedInterval.countIn_append, moved]
    omega
  · rw [sameWindow]
    exact inStep.charted entity key
  · have pending := inStep.pending
    simp only [Tracker.rotate, List.length_append, List.length_map]
    omega

/-- An expiry takes from the window and from the atlas what one waiting interval counts. -/
theorem InStep.expire (inStep : decay.InStep) {index : Nat}
    (found : decay.waiting[index]? = some closed) : InStep {
      tracker := decay.tracker.expire closed
      waiting := decay.waiting.eraseIdx index } := by
  have member := List.mem_of_getElem? found
  have closedSound := inStep.waiting closed member
  have covered := inStep.covered member
  have entriesSound : ∀ entry ∈ closed.requests.buckets.toList, entry.2.Sound entry.1 :=
    fun entry listed => closedSound.buckets entry.1 entry.2
      (Std.ExtTreeMap.mem_toList_iff_getElem?_eq_some.mp listed)
  have atlasCovered (key : String) : Bucket.countIn closed.requests.buckets.toList key ≤
      decay.tracker.atlas.countOf closed.entity key := by
    rw [Bucket.countIn_toList, ← inStep.charted]
    exact covered key
  have taken := inStep.atlas.countOf_removeBuckets entriesSound atlasCovered
  have left : ∀ entity key, ((decay.tracker.expire closed).counter entity).window.buckets.countOf
      key + closed.countOf entity key = (decay.tracker.counter entity).window.buckets.countOf key :=
    (decay.tracker.withdraw closed).countOf_window_forget covered
  have known := (decay.tracker.withdraw closed).sound_forget covered inStep.counter closedSound
  refine ⟨inStep.atlas.removeBuckets entriesSound closed.entity,
    fun entity => (known entity).window, fun entity => (known entity).interval,
    fun other waits => ?_, fun entity key => ?_, fun entity key => ?_, ?_⟩
  · exact inStep.waiting other (List.mem_of_mem_eraseIdx waits)
  · have whole := inStep.divided entity key
    have rest := ClosedInterval.countIn_eraseIdx found entity key
    have less := left entity key
    have opened : ((decay.tracker.expire closed).counter entity).interval =
        (decay.tracker.counter entity).interval :=
      (decay.tracker.withdraw closed).interval_forget closed entity
    rw [opened]
    dsimp only
    omega
  · have whole := inStep.charted entity key
    have less := left entity key
    have removed := taken entity key
    rw [Bucket.countIn_toList, ← ClosedInterval.countOf] at removed
    change ((decay.tracker.expire closed).counter entity).window.buckets.countOf key =
      (decay.tracker.atlas.removeBuckets closed.entity
        closed.requests.buckets.toList).countOf entity key
    omega
  · obtain ⟨bound, _⟩ := List.getElem?_eq_some_iff.mp found
    have pending := inStep.pending
    rw [List.length_eraseIdx_of_lt bound, ← pending]
    rfl

/-! ## Runs -/

/-- A request that is refused changes nothing, and any other is counted and charted. -/
theorem step_record_cases (decay : Decay) (entity : String) (location : Location) :
    decay.step (.record entity location) = decay ∨ ∃ address : Bucket.Address, address.Sound ∧
      decay.step (.record entity location) = { decay with
        tracker := (decay.tracker.count entity address).chart entity address } := by
  cases recorded : decay.tracker.record entity location with
  | error fault => exact .inl (by simp only [step, recorded])
  | ok tracker =>
      obtain ⟨address, accepted, rfl⟩ := Tracker.record_eq_ok_iff.mp recorded
      exact .inr ⟨address, Tracker.sound_of_accept accepted, by simp only [step, recorded]⟩

theorem InStep.step (inStep : decay.InStep) (step : Step) : (decay.step step).InStep := by
  cases step with
  | record entity location =>
      obtain refused | ⟨address, sound, recorded⟩ := decay.step_record_cases entity location
      · rwa [refused]
      · rw [recorded]
        exact inStep.record sound entity
  | rotate => exact inStep.rotate
  | expire index =>
      cases found : decay.waiting[index]? with
      | none => simpa [Decay.step, found] using inStep
      | some closed =>
          simp only [Decay.step, found]
          exact inStep.expire found
  | mergeSweep entity =>
      cases done : decay.tracker.atlas.mergeSweep? entity with
      | none => simpa [Decay.step, done] using inStep
      | some result =>
          simp only [Decay.step, done]
          exact inStep.withAtlas ((Atlas.Kept.refl inStep.atlas).mergeSweep done)
  | mergeAll => exact inStep.withAtlas inStep.atlas.mergeAll
  | setOverride entity cells =>
      exact inStep.withAtlas ⟨⟨inStep.atlas.config, inStep.atlas.territory⟩, rfl, fun _ _ => rfl⟩
  | clearOverride entity =>
      exact inStep.withAtlas ⟨⟨inStep.atlas.config, inStep.atlas.territory⟩, rfl, fun _ _ => rfl⟩

theorem InStep.run (inStep : decay.InStep) (steps : List Step) : (decay.run steps).InStep :=
  List.foldlRecOn (motive := InStep) steps Decay.step inStep fun _ known step _ => known.step step

/-- What can be seen of a tracker whose stores are in step. -/
structure Lockstep (decay : Decay) : Prop where
  /-- The window counts what the open interval and the waiting ones count. -/
  divided : ∀ entity key : String, (decay.tracker.counter entity).window.buckets.countOf key =
    (decay.tracker.counter entity).interval.buckets.countOf key +
      ClosedInterval.countIn decay.waiting entity key
  /-- The atlas counts what the window counts. -/
  charted : ∀ entity key : String, (decay.tracker.counter entity).window.buckets.countOf key =
    decay.tracker.atlas.countOf entity key
  /-- The load of an entity is the sum of its window. -/
  load : ∀ entity : String,
    decay.tracker.load entity = (decay.tracker.counter entity).window.buckets.sum
  /-- No count of zero is kept. -/
  positive : ∀ (entity key : String) (bucket : Bucket),
    (decay.tracker.counter entity).window.buckets[key]? = some bucket ∨
        (decay.tracker.counter entity).interval.buckets[key]? = some bucket ∨
        (∃ closed ∈ decay.waiting, closed.requests.buckets[key]? = some bucket) →
      0 < bucket.count
  /-- In whatever order a waiting interval's buckets are taken out of the atlas, each is there
  in full when its turn comes. -/
  removal : ∀ closed ∈ decay.waiting, ∀ (done rest : List (String × Bucket))
    (entry : String × Bucket), (done ++ entry :: rest).Perm closed.requests.buckets.toList →
      ((decay.tracker.atlas.removeBuckets closed.entity done).removeBucket closed.entity
        ⟨entry.1, entry.2.location⟩ entry.2.count).2 = entry.2.count
  /-- A waiting interval's requests are all in the window. -/
  enough : ∀ closed ∈ decay.waiting, closed.requests.total ≤ decay.tracker.load closed.entity ∧
    ∀ key : String, closed.requests.buckets.countOf key ≤
      (decay.tracker.counter closed.entity).window.buckets.countOf key
  pending : decay.tracker.pendingExpirations = decay.waiting.length
  /-- Where there is no breakdown, nothing is counted. -/
  unseen : ∀ entity : String, decay.tracker.breakdown? entity = none →
    ∀ key : String, (decay.tracker.counter entity).window.buckets.countOf key = 0
  /-- A breakdown lists the keys that the window counts, each once and with its count, the
  greatest counts first and equal counts in the order of the keys. -/
  breakdown : ∀ (entity : String) (listed : List BucketCount),
    decay.tracker.breakdown? entity = some listed →
      (∀ key : String, key ∈ listed.map BucketCount.key ↔
        0 < (decay.tracker.counter entity).window.buckets.countOf key) ∧
      (∀ entry ∈ listed,
        entry.count = (decay.tracker.counter entity).window.buckets.countOf entry.key) ∧
      (listed.map BucketCount.key).Nodup ∧
      listed.Pairwise fun first second => second.count < first.count ∨
        second.count = first.count ∧ first.key < second.key

theorem InStep.lockstep (inStep : decay.InStep) : decay.Lockstep where
  divided := inStep.divided
  charted := inStep.charted
  load entity := by
    rw [Tracker.load_eq, (inStep.window entity).balanced]
  positive entity key bucket := by
    rintro (inWindow | inInterval | ⟨closed, member, inClosed⟩)
    · exact ((inStep.window entity).buckets key bucket inWindow).positive
    · exact ((inStep.interval entity).buckets key bucket inInterval).positive
    · exact ((inStep.waiting closed member).buckets key bucket inClosed).positive
  removal closed member done rest entry perm := by
    have sound : ∀ other ∈ done ++ entry :: rest, other.2.Sound other.1 := fun other listed =>
      (inStep.waiting closed member).buckets other.1 other.2
        (Std.ExtTreeMap.mem_toList_iff_getElem?_eq_some.mp (perm.mem_iff.mp listed))
    have covered (key : String) : Bucket.countIn (done ++ entry :: rest) key ≤
        decay.tracker.atlas.countOf closed.entity key := by
      rw [Bucket.countIn_perm perm, Bucket.countIn_toList, ← inStep.charted]
      exact inStep.covered member key
    exact inStep.atlas.removeBucket_snd_of_covered sound covered
  enough closed member := by
    rw [Tracker.load_eq]
    exact ⟨Tally.total_le_of_covered (inStep.window closed.entity) (inStep.waiting closed member)
      (inStep.covered member), inStep.covered member⟩
  pending := inStep.pending
  unseen entity missing key := by
    simp [Tracker.counter_of_breakdown?_eq_none missing, BucketTable.countOf]
  breakdown entity listed found := by
    have sound := inStep.window entity
    obtain rfl := Tracker.busiestFirst_of_breakdown? found
    refine ⟨fun key => ?_, fun entry member => ?_, Tally.nodup_map_key_busiestFirst _,
      Tally.pairwise_busiestFirst _⟩
    · rw [sound.buckets.countOf_pos_iff, List.mem_map]
      constructor
      · rintro ⟨entry, member, rfl⟩
        exact ⟨_, Tally.mem_busiestFirst_iff.mp member⟩
      · rintro ⟨⟨location, count⟩, present⟩
        exact ⟨⟨key, location, count⟩, Tally.mem_busiestFirst_iff.mpr present, rfl⟩
    · rw [BucketTable.countOf, Tally.mem_busiestFirst_iff.mp member]

/-- Whatever happens to a tracker in whatever order, its stores decay in lockstep. -/
theorem lockstep_of_start {config : Config} {tracker : Tracker}
    (started : Tracker.start config = .ok tracker) (steps : List Step) :
    Lockstep (run { tracker } steps) :=
  ((InStep.start started).run steps).lockstep

/-- A run with the standard configuration in which the later of two intervals expires first. -/
theorem lockstep_standard : Lockstep (run { tracker := { atlas := { config := Config.standard } } }
    [.record "api" ⟨2.35, 48.85⟩, .rotate, .record "api" ⟨-74.0, 40.7⟩, .rotate, .expire 1,
      .mergeSweep "api", .expire 0, .mergeAll]) :=
  have started : Tracker.start Config.standard = .ok { atlas := { config := Config.standard } } :=
    rfl
  lockstep_of_start started _

end Decay

end LoadAtlas
