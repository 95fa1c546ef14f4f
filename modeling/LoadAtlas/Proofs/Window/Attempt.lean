import LoadAtlas.Proofs.Bucket.Globe
import LoadAtlas.Proofs.Window.Lockstep
import LoadAtlas.Proofs.Window.Session
import LoadAtlas.Window.Attempt

/-!
# Attempts fail or succeed as a whole

All looks of an attempt come before its first write, and a look that comes after the check of the
location does not fail: what the check lets through has a bucket of each admitted precision.  So
an attempt that fails has written nothing, and which locations it fails for is decided by the
check alone, although only a tracker makes use of it.

A recorded request counts once, under one key, in the window, in the open interval and in the
atlas.  Whatever cells it splits are those of its entity.
-/

namespace LoadAtlas

/-! ## Steps and whole calls -/

namespace Attempt

variable {State Value Next : Type}

/-- A call that is made at once: it fails, or it gives a value and a new state. -/
def whole (call : State → Except Fault (Value × State)) : Attempt State Value := fun state =>
  match call state with
  | .ok (value, after) => .ok value after
  | .error fault => .error fault state

def Succeeds (attempt : Attempt State Value) (state : State) : Prop :=
  ∃ value after, attempt.run state = .ok value after

/-- An attempt that fails leaves everything as it was. -/
def Atomic (attempt : Attempt State Value) (state : State) : Prop :=
  ∀ fault after, attempt.run state = .error fault after → after = state

theorem exists_map_iff {result : Except Fault Value} {change : Value → Next} :
    (∃ changed, result.map change = .ok changed) ↔ ∃ value, result = .ok value := by
  cases result <;> simp [Except.map]

variable {call : State → Except Fault (Value × State)} {state : State}

theorem atomic_whole : (whole call).Atomic state := by
  intro fault after failed
  cases called : call state <;> simp [whole, EStateM.run, called] at failed
  exact failed.2.symm

theorem succeeds_whole_iff : (whole call).Succeeds state ↔ ∃ result, call state = .ok result := by
  cases called : call state <;> simp [Succeeds, whole, EStateM.run, called]

theorem fails_whole_iff : (∃ fault after, (whole call).run state = .error fault after) ↔
    ¬ ∃ result, call state = .ok result := by
  cases called : call state <;> simp [whole, EStateM.run, called]

/-- An attempt goes on after a look with what was seen, or it fails with nothing written. -/
theorem run_look_bind (read : State → Except Fault Value) (next : Value → Attempt State Next)
    (state : State) : (look read >>= next).run state =
      match read state with
      | .ok value => (next value).run state
      | .error fault => .error fault state := by
  simp only [EStateM.run, bind, EStateM.bind, look]
  cases read state <;> rfl

end Attempt

namespace Atlas

/-- Counting a client step by step does what counting it at once does. -/
theorem insertion_eq_whole (entity : String) (location : Location) : insertion entity location =
    Attempt.whole fun atlas => (atlas.insert entity location).map fun after => ((), after) := by
  funext atlas
  refine (Attempt.run_look_bind _ _ atlas).trans ?_
  rw [Attempt.whole, Atlas.insert]
  cases atlas.address location <;> rfl

/-- Taking clients away step by step does what taking them away at once does. -/
theorem removal_eq_whole (entity : String) (location : Location) (amount : Nat) :
    removal entity location amount =
      Attempt.whole fun atlas => (atlas.remove entity location amount).map Prod.swap := by
  funext atlas
  refine (Attempt.run_look_bind _ _ atlas).trans ?_
  rw [Attempt.whole, Atlas.remove]
  cases atlas.address location <;> rfl

end Atlas

namespace Tracker

theorem getElem?_enroll (tracker : Tracker) (entity other : String) :
    (tracker.enroll entity).counters[other]? =
      if entity = other then some (tracker.counter entity) else tracker.counters[other]? := by
  simp only [enroll, Std.ExtTreeMap.getElem?_insertIfNew, Std.ExtTreeMap.mem_iff_isSome_getElem?]
  by_cases same : entity = other
  · subst same
    cases known : tracker.counters[entity]? <;>
      simp only [counter, Std.ExtTreeMap.getD_eq_getD_getElem?, known] <;> simp
  · simp [same]

/-- Counting a request in single steps is counting it. -/
theorem note_tick_enroll (tracker : Tracker) (entity : String) (address : Bucket.Address) :
    ((tracker.enroll entity).tick entity address).note = tracker.count entity address := by
  have counters : ((tracker.enroll entity).tick entity address).counters =
      (tracker.count entity address).counters := by
    apply Std.ExtTreeMap.ext_getElem?
    intro other
    rw [tick, count]
    simp only [Std.ExtTreeMap.getElem?_modify, Std.ExtTreeMap.getElem?_insert, getElem?_enroll]
    by_cases same : entity = other
    · subst same
      simp [counter]
    · simp [same]
  rw [note, counters]
  rfl

/-- Recording step by step does what recording at once does. -/
theorem recording_eq_whole (entity : String) (location : Location) : recording entity location =
    Attempt.whole fun tracker =>
      (tracker.record entity location).map fun after => ((), after) := by
  funext tracker
  change (recording entity location).run tracker = _
  simp only [recording, Attempt.run_look_bind, Attempt.whole, record, accept]
  cases (checkEntity entity).mapError Fault.input with
  | error fault => rfl
  | ok _ =>
      cases location.check.mapError Fault.input with
      | error fault => rfl
      | ok _ =>
          cases tracker.atlas.address location with
          | error fault => rfl
          | ok address =>
              change EStateM.Result.ok () (((tracker.enroll entity).tick entity address).note.chart
                entity address) = _
              rw [note_tick_enroll]
              rfl

theorem run_recording_eq_ok_iff {tracker after : Tracker} {entity : String} {location : Location} :
    (recording entity location).run tracker = .ok () after ↔
      tracker.record entity location = .ok after := by
  rw [recording_eq_whole]
  cases recorded : tracker.record entity location <;>
    simp [Attempt.whole, EStateM.run, recorded, Except.map]

end Tracker

/-! ## What is let in -/

namespace Atlas

variable {atlas : Atlas} {location : Location}

/-- Under a sound configuration the check of a location alone decides whether it has a bucket. -/
theorem exists_address_iff (sound : atlas.config.Sound) (location : Location) :
    (∃ address, atlas.address location = .ok address) ↔ location.check = .ok () := by
  rw [← Bucket.exists_address_iff sound.bucketPrecision_pos sound.bucketPrecision_le, address]
  cases Bucket.address location atlas.config.bucketPrecision.toNat <;> simp [Except.mapError]

theorem exists_insert_iff (entity : String) : (∃ after, atlas.insert entity location = .ok after) ↔
    ∃ address, atlas.address location = .ok address := by
  rw [Atlas.insert]
  cases atlas.address location <;> simp [bind, Except.bind, pure, Except.pure]

theorem exists_remove_iff (entity : String) (amount : Nat) :
    (∃ after, atlas.remove entity location amount = .ok after) ↔
      ∃ address, atlas.address location = .ok address := by
  rw [Atlas.remove]
  cases atlas.address location <;> simp [bind, Except.bind, pure, Except.pure]

end Atlas

namespace Tracker

variable {tracker : Tracker} {entity : String} {location : Location}

theorem accept_eq_ok_iff {address : Bucket.Address} :
    tracker.accept entity location = .ok address ↔ Text.isBlank entity = false ∧
      location.check = .ok () ∧ tracker.atlas.address location = .ok address := by
  rw [accept, checkEntity]
  cases Text.isBlank entity with
  | true => simp [Except.mapError, bind, Except.bind]
  | false => cases location.check <;> simp [Except.mapError, bind, Except.bind]

/-- A request is recorded unless it names no entity or its location does not pass the check: what
passes the check has a bucket. -/
theorem exists_record_iff (sound : tracker.atlas.config.Sound) (entity : String)
    (location : Location) :
    (∃ after, tracker.record entity location = .ok after) ↔
      Text.isBlank entity = false ∧ location.check = .ok () := by
  have bucket := Atlas.exists_address_iff sound location
  simp only [record_eq_ok_iff, accept_eq_ok_iff]
  constructor
  · rintro ⟨_, _, ⟨named, checked, _⟩, _⟩
    exact ⟨named, checked⟩
  · rintro ⟨named, checked⟩
    obtain ⟨address, found⟩ := bucket.mpr checked
    exact ⟨_, address, ⟨named, checked, found⟩, rfl⟩

end Tracker

/-- The locations that one may come in with are those that pass the check, whichever way one comes
in.  Anyone else leaves everything as it was. -/
structure Tracker.Admits (tracker : Tracker) (location : Location) : Prop where
  insertion : ∀ entity, (Atlas.insertion entity location).Succeeds tracker.atlas ↔
    location.check = .ok ()
  removal : ∀ entity amount, (Atlas.removal entity location amount).Succeeds tracker.atlas ↔
    location.check = .ok ()
  recording : ∀ entity, Text.isBlank entity = false →
    ((recording entity location).Succeeds tracker ↔ location.check = .ok ())
  insertion_atomic : ∀ entity, (Atlas.insertion entity location).Atomic tracker.atlas
  removal_atomic : ∀ entity amount, (Atlas.removal entity location amount).Atomic tracker.atlas
  recording_atomic : ∀ entity, (Tracker.recording entity location).Atomic tracker

/-- A tracker and its atlas let in the same locations, whatever they hold. -/
theorem Tracker.admits_of_sound {tracker : Tracker} (sound : tracker.atlas.config.Sound)
    (location : Location) : tracker.Admits location := by
  have bucket := Atlas.exists_address_iff sound location
  refine ⟨fun entity => ?_, fun entity amount => ?_, fun entity named => ?_,
    fun entity => ?_, fun entity amount => ?_, fun entity => ?_⟩
  · rw [Atlas.insertion_eq_whole, Attempt.succeeds_whole_iff, Attempt.exists_map_iff,
      Atlas.exists_insert_iff, bucket]
  · rw [Atlas.removal_eq_whole, Attempt.succeeds_whole_iff, Attempt.exists_map_iff,
      Atlas.exists_remove_iff, bucket]
  · rw [recording_eq_whole, Attempt.succeeds_whole_iff, Attempt.exists_map_iff,
      exists_record_iff sound entity location, and_iff_right named]
  · rw [Atlas.insertion_eq_whole]
    exact Attempt.atomic_whole
  · rw [Atlas.removal_eq_whole]
    exact Attempt.atomic_whole
  · rw [recording_eq_whole]
    exact Attempt.atomic_whole

theorem Tracker.admits_standard :
    Admits { atlas := { config := Config.standard } } ⟨0.0 / 0.0, 48.85⟩ :=
  admits_of_sound (show Config.standard.Sound from rfl) _

/-! ## What is recorded -/

/-- What one more request makes of a tracker: one unit more under one key in each of the three
stores of its entity, and nothing else but the splits of that entity's cells. -/
structure Tracker.Recorded (before : Tracker) (entity : String) (address : Bucket.Address)
    (after : Tracker) : Prop where
  interval : ∀ other key, (after.counter other).interval.buckets.countOf key =
    (before.counter other).interval.buckets.countOf key +
      if entity = other ∧ address.key = key then 1 else 0
  window : ∀ other key, (after.counter other).window.buckets.countOf key =
    (before.counter other).window.buckets.countOf key +
      if entity = other ∧ address.key = key then 1 else 0
  atlas : ∀ other key, after.atlas.countOf other key =
    before.atlas.countOf other key + if entity = other ∧ address.key = key then 1 else 0
  intervalTotal : ∀ other, (after.counter other).interval.total =
    (before.counter other).interval.total + if entity = other then 1 else 0
  load : ∀ other, after.load other = before.load other + if entity = other then 1 else 0
  trackedClients : after.atlas.stats.trackedClients = before.atlas.stats.trackedClients + 1
  recorded : after.recorded = before.recorded + 1
  counters : ∀ other, entity ≠ other → after.counters[other]? = before.counters[other]?
  territories : ∀ other, entity ≠ other →
    after.atlas.territories[other]? = before.atlas.territories[other]?
  overrides : after.atlas.overrides = before.atlas.overrides
  config : after.atlas.config = before.atlas.config
  merges : after.atlas.merges = before.atlas.merges
  rotations : after.rotations = before.rotations
  pendingExpirations : after.pendingExpirations = before.pendingExpirations

theorem Tracker.recorded_chart_count {tracker : Tracker} {address : Bucket.Address}
    (wellFormed : tracker.atlas.WellFormed) (sound : address.Sound) (entity : String) :
    tracker.Recorded entity address ((tracker.count entity address).chart entity address) where
  interval := tracker.countOf_interval_count entity address
  window := tracker.countOf_window_count entity address
  atlas := wellFormed.countOf_insertBucket sound Nat.one_pos entity
  intervalTotal := tracker.total_interval_count entity address
  load := tracker.load_count entity address
  trackedClients := by
    have inserted := wellFormed.insertBucket sound Nat.one_pos entity
    rw [wellFormed.trackedClients_stats]
    refine inserted.trackedClients_stats.trans ?_
    rw [wellFormed.weigh_insertBucket sound Nat.one_pos]
  recorded := rfl
  counters other different := (tracker.getElem?_count other entity address).trans
    (if_neg different)
  territories other different :=
    (tracker.atlas.getElem?_insertBucket entity address 1 other).trans (if_neg different)
  overrides := rfl
  config := rfl
  merges := rfl
  rotations := rfl
  pendingExpirations := rfl

namespace Decay

/-- What stays true of a tracker whose atlas anybody may change. -/
structure WellFormed (decay : Decay) : Prop where
  atlas : decay.tracker.atlas.WellFormed
  interval : ∀ entity, (decay.tracker.counter entity).interval.Sound
  waiting : ∀ closed ∈ decay.waiting, closed.requests.Sound

namespace WellFormed

variable {decay : Decay}

theorem start {config : Config} {tracker : Tracker}
    (started : Tracker.start config = .ok tracker) : WellFormed { tracker } :=
  have inStep := InStep.start started
  ⟨inStep.atlas, inStep.interval, inStep.waiting⟩

theorem record (wellFormed : decay.WellFormed) {address : Bucket.Address} (sound : address.Sound)
    (entity : String) : WellFormed { decay with
      tracker := (decay.tracker.count entity address).chart entity address } where
  atlas := wellFormed.atlas.insertBucket sound Nat.one_pos entity
  interval other := by
    rw [Tracker.counter_chart, Tracker.counter_count]
    split
    · exact (wellFormed.interval entity).add Nat.one_pos sound
    · exact wellFormed.interval other
  waiting := wellFormed.waiting

theorem rotate (wellFormed : decay.WellFormed) : WellFormed {
    tracker := decay.tracker.rotate.1
    waiting := decay.waiting ++ decay.tracker.rotate.2 } where
  atlas := wellFormed.atlas
  interval entity := by
    rw [Tracker.counter_rotate]
    split
    · exact wellFormed.interval entity
    · exact Tally.sound_empty
  waiting closed member := by
    rcases List.mem_append.mp member with waited | fresh
    · exact wellFormed.waiting closed waited
    · exact Tracker.sound_of_rotate wellFormed.interval fresh

theorem expire (wellFormed : decay.WellFormed) (index : Nat) :
    (decay.step (.expire index)).WellFormed := by
  cases found : decay.waiting[index]? with
  | none => simpa only [Decay.step, found] using wellFormed
  | some closed =>
      have sound := wellFormed.waiting closed (List.mem_of_getElem? found)
      simp only [Decay.step, found]
      refine ⟨?_, fun entity => ?_, fun other member => ?_⟩
      · exact wellFormed.atlas.removeBuckets (fun entry listed => sound.buckets entry.1 entry.2
          (Std.ExtTreeMap.mem_toList_iff_getElem?_eq_some.mp listed)) closed.entity
      · rw [Tracker.expire, Tracker.interval_forget]
        exact wellFormed.interval entity
      · exact wellFormed.waiting other (List.mem_of_mem_eraseIdx member)

theorem serve (wellFormed : decay.WellFormed) (call : Call) :
    (decay.serve call).1.WellFormed := by
  cases call with
  | record entity location =>
      cases accepted : decay.tracker.accept entity location with
      | error fault =>
          rw [serve_record_of_refused accepted]
          exact wellFormed
      | ok address =>
          rw [serve_record_of_accepted accepted]
          exact wellFormed.record (Tracker.sound_of_accept accepted) entity
  | rotate => exact wellFormed.rotate
  | expire entity index =>
      cases placed : ClosedInterval.place? entity index decay.waiting with
      | none => simpa only [Decay.serve, placed] using wellFormed
      | some place => simpa only [Decay.serve, placed] using wellFormed.expire place
  | atlas request =>
      exact ⟨(decay.tracker.atlas.effect_serve request).wellFormed wellFormed.atlas,
        wellFormed.interval, wellFormed.waiting⟩
  | load entity => exact wellFormed
  | breakdown entity => exact wellFormed
  | entities => exact wellFormed
  | stats => exact wellFormed

theorem serveAll (wellFormed : decay.WellFormed) (calls : List Call) :
    (decay.serveAll calls).WellFormed :=
  List.foldlRecOn (motive := WellFormed) calls _ wellFormed fun _ known call _ => known.serve call

end WellFormed

/-- A request is recorded as a whole or not at all, and it is decided beforehand which. -/
structure Whole (decay : Decay) (entity : String) (location : Location) : Prop where
  fails_iff : (∃ fault after,
      (Tracker.recording entity location).run decay.tracker = .error fault after) ↔
    Text.isBlank entity = true ∨ location.check ≠ .ok ()
  atomic : (Tracker.recording entity location).Atomic decay.tracker
  recorded : ∀ after, (Tracker.recording entity location).run decay.tracker = .ok () after →
    ∃ address, decay.tracker.atlas.address location = .ok address ∧
      decay.tracker.Recorded entity address after

/-- Whatever a tracker and its atlas were asked for before, a request is recorded as a whole or not
at all. -/
theorem whole_of_start {config : Config} {tracker : Tracker}
    (started : Tracker.start config = .ok tracker) (calls : List Call) (entity : String)
    (location : Location) : Whole (serveAll { tracker } calls) entity location := by
  have wellFormed := (WellFormed.start started).serveAll calls
  have recorded := Tracker.exists_record_iff wellFormed.atlas.config entity location
  refine ⟨?_, ?_, fun after done => ?_⟩
  · rw [Tracker.recording_eq_whole, Attempt.fails_whole_iff, Attempt.exists_map_iff, recorded]
    cases Text.isBlank entity <;> simp
  · rw [Tracker.recording_eq_whole]
    exact Attempt.atomic_whole
  · rw [Tracker.run_recording_eq_ok_iff, Tracker.record_eq_ok_iff] at done
    obtain ⟨address, accepted, rfl⟩ := done
    exact ⟨address, (Tracker.accept_eq_ok_iff.mp accepted).2.2,
      Tracker.recorded_chart_count wellFormed.atlas (Tracker.sound_of_accept accepted) entity⟩

theorem whole_standard : Whole (serveAll { tracker := { atlas := { config := Config.standard } } }
    [.record "api" ⟨2.35, 48.85⟩, .atlas (.remove "api" ⟨2.35, 48.85⟩ 1), .rotate,
      .record "web" ⟨-74.0, 40.7⟩, .expire "api" 0]) "web" ⟨-74.0, 40.7⟩ :=
  whole_of_start (show Tracker.start Config.standard =
    .ok { atlas := { config := Config.standard } } from rfl) _ _ _

end Decay

end LoadAtlas
