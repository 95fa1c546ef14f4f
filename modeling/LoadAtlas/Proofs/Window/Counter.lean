import LoadAtlas.Proofs.Atlas.WellFormed
import LoadAtlas.Window.Tracker

/-!
# Counters of a tracker

What each operation of a tracker does to the counter of an entity, and what the closed intervals
that it hands out hold.  The requests in some closed intervals are a sum that does not depend on
the order of the intervals, so an interval may be taken out anywhere.
-/

namespace LoadAtlas

/-- The requests with a key that a closed interval holds for an entity. -/
def ClosedInterval.countOf (closed : ClosedInterval) (entity key : String) : Nat :=
  if closed.entity = entity then closed.requests.buckets.countOf key else 0

/-- The requests with a key that some closed intervals hold for an entity. -/
def ClosedInterval.countIn (intervals : List ClosedInterval) (entity key : String) : Nat :=
  (intervals.map fun closed => closed.countOf entity key).sum

namespace ClosedInterval

variable {intervals : List ClosedInterval} {closed : ClosedInterval}

theorem countOf_le_countIn (member : closed ∈ intervals) (entity key : String) :
    closed.countOf entity key ≤ countIn intervals entity key :=
  List.single_le_sum (fun _ _ => Nat.zero_le _) _ (List.mem_map_of_mem member)

theorem countIn_append (first second : List ClosedInterval) (entity key : String) :
    countIn (first ++ second) entity key =
      countIn first entity key + countIn second entity key := by
  simp [countIn]

theorem countIn_eraseIdx {index : Nat} (found : intervals[index]? = some closed)
    (entity key : String) : closed.countOf entity key +
      countIn (intervals.eraseIdx index) entity key = countIn intervals entity key :=
  sum_map_eraseIdx (fun closed : ClosedInterval => closed.countOf entity key) found

end ClosedInterval

/-- What the two tallies of a counter have to be. -/
structure Counter.Sound (counter : Counter) : Prop where
  window : counter.window.Sound
  interval : counter.interval.Sound

theorem Counter.sound_empty : Counter.Sound {} :=
  ⟨Tally.sound_empty, Tally.sound_empty⟩

/-! ## The counters of a tracker -/

namespace Tracker

/-- The counter of an entity; an entity that was not seen before has counted nothing. -/
def counter (tracker : Tracker) (entity : String) : Counter :=
  tracker.counters.getD entity {}

/-- A tracker starts with a sound configuration and nothing else. -/
theorem start_eq_ok_iff {config : Config} {tracker : Tracker} :
    start config = .ok tracker ↔ config.Sound ∧ tracker = { atlas := { config } } := by
  cases started : Atlas.start config with
  | error fault =>
      have unsound : ¬ config.Sound := fun sound => by
        rw [Atlas.start_eq_ok_iff.mpr ⟨sound, rfl⟩] at started
        simp at started
      simp [start, started, unsound, Except.map]
  | ok atlas =>
      obtain ⟨sound, rfl⟩ := Atlas.start_eq_ok_iff.mp started
      simp [start, started, sound, Except.map, eq_comm]

theorem load_eq (tracker : Tracker) (entity : String) :
    tracker.load entity = (tracker.counter entity).window.total := by
  cases found : tracker.counters[entity]? <;>
    simp [load, counter, Std.ExtTreeMap.getD_eq_getD_getElem?, found]

theorem counter_count (tracker : Tracker) (entity : String) (address : Bucket.Address)
    (other : String) : (tracker.count entity address).counter other =
      if entity = other then
        { window := (tracker.counter entity).window.add address.key address.location 1
          interval := (tracker.counter entity).interval.add address.key address.location 1 }
      else tracker.counter other := by
  simp [counter, count, Std.ExtTreeMap.getD_insert]

/-- A request that is counted is counted once in the window of its entity. -/
theorem countOf_window_count (tracker : Tracker) (entity : String) (address : Bucket.Address)
    (other key : String) :
    ((tracker.count entity address).counter other).window.buckets.countOf key =
      (tracker.counter other).window.buckets.countOf key +
        if entity = other ∧ address.key = key then 1 else 0 := by
  rw [counter_count]
  by_cases hit : entity = other
  · subst hit
    simp only [↓reduceIte, Tally.buckets_add, BucketTable.countOf_add, true_and]
  · simp only [hit, ↓reduceIte, false_and, Nat.add_zero]

theorem countOf_interval_count (tracker : Tracker) (entity : String) (address : Bucket.Address)
    (other key : String) :
    ((tracker.count entity address).counter other).interval.buckets.countOf key =
      (tracker.counter other).interval.buckets.countOf key +
        if entity = other ∧ address.key = key then 1 else 0 := by
  rw [counter_count]
  by_cases hit : entity = other
  · subst hit
    simp only [↓reduceIte, Tally.buckets_add, BucketTable.countOf_add, true_and]
  · simp only [hit, ↓reduceIte, false_and, Nat.add_zero]

theorem sound_count {tracker : Tracker} {address : Bucket.Address}
    (sound : ∀ entity, (tracker.counter entity).Sound) (addressSound : address.Sound)
    (entity other : String) : ((tracker.count entity address).counter other).Sound := by
  rw [counter_count]
  by_cases hit : entity = other
  · rw [if_pos hit]
    exact ⟨(sound entity).window.add Nat.one_pos addressSound,
      (sound entity).interval.add Nat.one_pos addressSound⟩
  · rw [if_neg hit]
    exact sound other

theorem total_interval_count (tracker : Tracker) (entity : String) (address : Bucket.Address)
    (other : String) : ((tracker.count entity address).counter other).interval.total =
      (tracker.counter other).interval.total + if entity = other then 1 else 0 := by
  rw [counter_count]
  by_cases hit : entity = other
  · subst hit
    simp [Tally.total_add]
  · simp [hit]

theorem load_count (tracker : Tracker) (entity : String) (address : Bucket.Address)
    (other : String) : (tracker.count entity address).load other =
      tracker.load other + if entity = other then 1 else 0 := by
  rw [load_eq, load_eq, counter_count]
  by_cases hit : entity = other
  · subst hit
    simp [Tally.total_add]
  · simp [hit]

theorem counter_chart (tracker : Tracker) (entity : String) (address : Bucket.Address)
    (other : String) : (tracker.chart entity address).counter other = tracker.counter other :=
  rfl

theorem counter_rotate (tracker : Tracker) (entity : String) :
    tracker.rotate.1.counter entity = if (tracker.counter entity).interval.isEmpty then
      tracker.counter entity else { tracker.counter entity with interval := .empty } := by
  cases found : tracker.counters[entity]? <;>
    simp [counter, rotate, Std.ExtTreeMap.getD_eq_getD_getElem?, found, Tally.isEmpty]

/-- No interval is open after a rotation. -/
theorem countOf_interval_rotate (tracker : Tracker) {entity : String}
    (balanced : (tracker.counter entity).interval.Balanced) (key : String) :
    (tracker.rotate.1.counter entity).interval.buckets.countOf key = 0 := by
  rw [counter_rotate]
  by_cases idle : (tracker.counter entity).interval.isEmpty = true
  · rw [if_pos idle]
    exact balanced.countOf_eq_zero idle key
  · rw [if_neg idle]
    simp [Tally.empty, BucketTable.countOf]

theorem total_interval_rotate (tracker : Tracker) (entity : String) :
    (tracker.rotate.1.counter entity).interval.total = 0 := by
  rw [counter_rotate]
  by_cases idle : (tracker.counter entity).interval.isEmpty = true
  · rw [if_pos idle]
    simpa [Tally.isEmpty] using idle
  · rw [if_neg idle]
    rfl

theorem load_rotate (tracker : Tracker) (entity : String) :
    tracker.rotate.1.load entity = tracker.load entity := by
  rw [load_eq, load_eq, counter_rotate]
  split <;> rfl

theorem counter_withdraw (tracker : Tracker) (closed : ClosedInterval) (other : String) :
    (tracker.withdraw closed).counter other = tracker.counter other :=
  rfl

theorem counter_forget (tracker : Tracker) (closed : ClosedInterval) (other : String) :
    (tracker.forget closed).counter other = if closed.entity = other then
      { tracker.counter other with
        window := (tracker.counter other).window.subtract closed.requests }
      else tracker.counter other := by
  by_cases same : closed.entity = other
  · subst same
    cases found : tracker.counters[closed.entity]? <;>
      simp [counter, forget, Std.ExtTreeMap.getD_eq_getD_getElem?, found, Tally.subtract_empty]
  · simp [counter, forget, Std.ExtTreeMap.getD_modify, same]

/-- The total of a window falls by that of the interval, though not below zero. -/
theorem load_forget (tracker : Tracker) (closed : ClosedInterval) (other : String) :
    (tracker.forget closed).load other =
      tracker.load other - if closed.entity = other then closed.requests.total else 0 := by
  rw [load_eq, load_eq, counter_forget]
  by_cases hit : closed.entity = other
  · subst hit
    simp only [↓reduceIte]
    rfl
  · simp [hit]

theorem interval_forget (tracker : Tracker) (closed : ClosedInterval) (other : String) :
    ((tracker.forget closed).counter other).interval = (tracker.counter other).interval := by
  rw [counter_forget]
  split <;> rfl

section Forget

variable (tracker : Tracker) {closed : ClosedInterval}
  (covered : ∀ key : String, closed.requests.buckets.countOf key ≤
    (tracker.counter closed.entity).window.buckets.countOf key)

include covered

/-- A window without the requests of an interval counts that much less, if it counted as much. -/
theorem countOf_window_forget (entity key : String) :
    ((tracker.forget closed).counter entity).window.buckets.countOf key +
        closed.countOf entity key =
      (tracker.counter entity).window.buckets.countOf key := by
  rw [counter_forget, ClosedInterval.countOf]
  by_cases hit : closed.entity = entity
  · subst hit
    simp only [↓reduceIte]
    exact Tally.countOf_subtract covered key
  · simp [hit]

theorem sound_forget (sound : ∀ entity, (tracker.counter entity).Sound)
    (closedSound : closed.requests.Sound) (entity : String) :
    ((tracker.forget closed).counter entity).Sound := by
  rw [counter_forget]
  by_cases hit : closed.entity = entity
  · subst hit
    rw [if_pos rfl]
    exact ⟨(sound closed.entity).window.subtract closedSound covered,
      (sound closed.entity).interval⟩
  · rw [if_neg hit]
    exact sound entity

end Forget

private theorem sum_map_filter {Item : Type} (measure : Item → Nat) (keep : Item → Bool)
    (items : List Item) (idle : ∀ item ∈ items, keep item = false → measure item = 0) :
    ((items.filter keep).map measure).sum = (items.map measure).sum := by
  induction items with
  | nil => rfl
  | cons item items induction =>
      obtain ⟨head, rest⟩ := List.forall_mem_cons.mp idle
      cases kept : keep item with
      | false => simp [kept, head kept, induction rest]
      | true => simp [kept, induction rest]

/-- The closed intervals of a rotation hold what the open intervals held, whatever is measured. -/
theorem sum_rotate (tracker : Tracker) (entity : String) (measure : Tally → Nat)
    (nothing : measure {} = 0)
    (idle : ∀ entity, (tracker.counter entity).interval.isEmpty = true →
      measure (tracker.counter entity).interval = 0) :
    (tracker.rotate.2.map fun closed =>
        if closed.entity = entity then measure closed.requests else 0).sum =
      measure (tracker.counter entity).interval := by
  let held : String → Counter → Nat := fun other counter =>
    if other = entity then measure counter.interval else 0
  have whole : Table.sum held tracker.counters = measure (tracker.counter entity).interval := by
    rw [Table.sum_eq_measureAt _ entity fun other _ _ different => if_neg different]
    cases found : tracker.counters[entity]? <;>
      simp [Table.measureAt, counter, Std.ExtTreeMap.getD_eq_getD_getElem?, found, nothing]
  rw [← whole, rotate, List.map_map]
  refine sum_map_filter (fun entry : String × Counter => held entry.1 entry.2) _ _
    fun entry member unseen => ?_
  have found := Std.ExtTreeMap.mem_toList_iff_getElem?_eq_some.mp member
  have known := idle entry.1
  rw [counter, Std.ExtTreeMap.getD_eq_getD_getElem?, found, Option.getD_some] at known
  have empty := known (by simpa using unseen)
  simp [held, empty]

theorem countIn_rotate (tracker : Tracker) (entity key : String)
    (balanced : ∀ entity, (tracker.counter entity).interval.Balanced) :
    ClosedInterval.countIn tracker.rotate.2 entity key =
      (tracker.counter entity).interval.buckets.countOf key :=
  tracker.sum_rotate entity (fun requests => requests.buckets.countOf key)
    (by simp [BucketTable.countOf])
    fun other idle => (balanced other).countOf_eq_zero idle key

/-- A request that is recorded was accepted, then counted and then charted. -/
theorem record_eq_ok_iff {tracker recorded : Tracker} {entity : String} {location : Location} :
    tracker.record entity location = .ok recorded ↔ ∃ address : Bucket.Address,
      tracker.accept entity location = .ok address ∧
        (tracker.count entity address).chart entity address = recorded := by
  cases accepted : tracker.accept entity location <;>
    simp [record, accepted, bind, Except.bind, pure, Except.pure]

theorem sound_of_accept {tracker : Tracker} {entity : String} {location : Location}
    {address : Bucket.Address} (accepted : tracker.accept entity location = .ok address) :
    address.Sound := by
  cases named : (checkEntity entity).mapError Fault.input with
  | error fault => simp [accept, named, bind, Except.bind] at accepted
  | ok _ =>
      cases placed : location.check.mapError Fault.input with
      | error fault => simp [accept, named, placed, bind, Except.bind] at accepted
      | ok _ =>
          exact Atlas.sound_of_address (by simpa [accept, named, placed, bind, Except.bind]
            using accepted)

/-- A location that the standard configuration accepts. -/
theorem exists_accept_standard :
    ∃ address, Tracker.accept { atlas := { config := Config.standard } } "api" ⟨2.35, 48.85⟩ =
      .ok address := by
  have accepts : (Tracker.accept { atlas := { config := Config.standard } } "api"
      ⟨2.35, 48.85⟩).isOk = true := by decide +kernel
  cases accepted : Tracker.accept { atlas := { config := Config.standard } } "api"
      ⟨2.35, 48.85⟩ with
  | error fault => simp [accepted, Except.isOk, Except.toBool] at accepts
  | ok address => exact ⟨address, rfl⟩

theorem mem_counters_iff (tracker : Tracker) {entity : String} :
    entity ∈ tracker.counters ↔ (tracker.breakdown? entity).isSome = true := by
  rw [Std.ExtTreeMap.mem_iff_isSome_getElem?, breakdown?, Option.isSome_map]

theorem busiestFirst_of_breakdown? {tracker : Tracker} {entity : String}
    {listed : List BucketCount} (found : tracker.breakdown? entity = some listed) :
    (tracker.counter entity).window.busiestFirst = listed := by
  cases known : tracker.counters[entity]? with
  | none => simp [breakdown?, known] at found
  | some counter =>
      simpa [breakdown?, known, Tracker.counter, Std.ExtTreeMap.getD_eq_getD_getElem?] using found

theorem counter_of_breakdown?_eq_none {tracker : Tracker} {entity : String}
    (missing : tracker.breakdown? entity = none) : tracker.counter entity = {} := by
  have unknown : tracker.counters[entity]? = none := Option.map_eq_none_iff.mp missing
  rw [counter, Std.ExtTreeMap.getD_eq_getD_getElem?, unknown, Option.getD_none]

theorem sound_of_rotate {tracker : Tracker} {closed : ClosedInterval}
    (sound : ∀ entity, (tracker.counter entity).interval.Sound)
    (member : closed ∈ tracker.rotate.2) : closed.requests.Sound := by
  obtain ⟨⟨entity, counter⟩, entry, rfl⟩ := List.mem_map.mp member
  have found := Std.ExtTreeMap.mem_toList_iff_getElem?_eq_some.mp (List.mem_filter.mp entry).1
  have known := sound entity
  rwa [Tracker.counter, Std.ExtTreeMap.getD_eq_getD_getElem?, found] at known

end Tracker

end LoadAtlas
