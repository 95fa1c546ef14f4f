import LoadAtlas.Proofs.Window.Counter
import LoadAtlas.Window.Overlap

/-!
# Closing an interval

Closing the interval of an entity changes its counter and no other, and hands out the requests of
the interval.  So a rotation is the same whether it closes all intervals at once or one after the
other.
-/

namespace LoadAtlas

/-- The counter when its interval is closed; an interval that saw no traffic stays open. -/
def Counter.closed (counter : Counter) : Counter :=
  if counter.interval.isEmpty then counter else { counter with interval := .empty }

theorem Counter.window_closed (counter : Counter) : counter.closed.window = counter.window := by
  rw [closed]
  split <;> rfl

theorem Counter.Sound.closed {counter : Counter} (sound : counter.Sound) :
    counter.closed.Sound := by
  rw [Counter.closed]
  split
  · exact sound
  · exact ⟨sound.window, Tally.sound_empty⟩

namespace Tracker

variable (tracker : Tracker) (entity : String)

theorem close_snd : (tracker.close entity).2 =
    if (tracker.counter entity).interval.isEmpty then none
    else some ⟨entity, (tracker.counter entity).interval⟩ := by
  cases found : tracker.counters[entity]? with
  | none =>
      simp [close, counter, Std.ExtTreeMap.getD_eq_getD_getElem?, found, Tally.isEmpty]
  | some counter =>
      simp only [close, found, Tracker.counter, Std.ExtTreeMap.getD_eq_getD_getElem?,
        Option.getD_some]
      split <;> rfl

/-- Closing an interval changes one counter and the number of intervals that wait. -/
theorem close_fst : (tracker.close entity).1 = { tracker with
    counters := tracker.counters.map fun other counter =>
      if entity = other then counter.closed else counter
    pendingExpirations :=
      tracker.pendingExpirations + (tracker.close entity).2.toList.length } := by
  have counters : (tracker.close entity).1.counters = tracker.counters.map fun other counter =>
      if entity = other then counter.closed else counter := by
    apply Std.ExtTreeMap.ext_getElem?
    intro other
    rw [Std.ExtTreeMap.getElem?_map]
    cases found : tracker.counters[entity]? with
    | none =>
        by_cases hit : entity = other
        · subst hit
          simp [close, found]
        · simp [close, found, hit]
    | some counter =>
        by_cases idle : counter.interval.isEmpty = true <;> by_cases hit : entity = other
        · subst hit
          simp [close, found, Counter.closed, idle]
        · simp [close, found, idle, hit]
        · subst hit
          simp [close, found, Counter.closed, idle]
        · simp [close, found, idle, hit, Std.ExtTreeMap.getElem?_insert]
  rw [← counters]
  cases found : tracker.counters[entity]? with
  | none => simp [close, found]
  | some counter => by_cases idle : counter.interval.isEmpty = true <;> simp [close, found, idle]

theorem counter_close (other : String) : (tracker.close entity).1.counter other =
    if entity = other then (tracker.counter other).closed else tracker.counter other := by
  rw [close_fst]
  cases found : tracker.counters[other]? <;>
    simp [counter, Std.ExtTreeMap.getD_eq_getD_getElem?, found, Counter.closed, Tally.isEmpty]

theorem window_close (other : String) :
    ((tracker.close entity).1.counter other).window = (tracker.counter other).window := by
  rw [counter_close]
  split
  · exact Counter.window_closed _
  · rfl

theorem sound_close (sound : ∀ entity, (tracker.counter entity).Sound) (other : String) :
    ((tracker.close entity).1.counter other).Sound := by
  rw [counter_close]
  split
  · exact (sound other).closed
  · exact sound other

theorem sound_of_close (sound : ∀ entity, (tracker.counter entity).Sound)
    {closed : ClosedInterval} (member : closed ∈ (tracker.close entity).2.toList) :
    closed.requests.Sound := by
  rw [close_snd] at member
  split at member
  · simp at member
  · obtain rfl : closed = ⟨entity, (tracker.counter entity).interval⟩ := by simpa using member
    exact (sound entity).interval

/-- The requests of the open interval go over to the closed one. -/
theorem countOf_close (other key : String) :
    ((tracker.close entity).1.counter other).interval.buckets.countOf key +
        ClosedInterval.countIn (tracker.close entity).2.toList other key =
      (tracker.counter other).interval.buckets.countOf key := by
  rw [counter_close, close_snd, Counter.closed]
  by_cases idle : (tracker.counter entity).interval.isEmpty = true
  · rw [if_pos idle]
    by_cases hit : entity = other
    · subst hit
      simp [idle, ClosedInterval.countIn]
    · simp [hit, ClosedInterval.countIn]
  · by_cases hit : entity = other
    · subst hit
      simp [idle, ClosedInterval.countIn, ClosedInterval.countOf, Tally.empty, BucketTable.countOf]
    · simp [idle, hit, ClosedInterval.countIn, ClosedInterval.countOf]

theorem close_snd_close {other : String} (different : entity ≠ other) :
    ((tracker.close entity).1.close other).2 = (tracker.close other).2 := by
  rw [close_snd, close_snd, counter_close, if_neg different]

theorem map_filter_eq_flatMap {Item Image : Type} (keep : Item → Bool) (image : Item → Image)
    (items : List Item) : (items.filter keep).map image =
      items.flatMap fun item => if keep item then [image item] else [] := by
  induction items with
  | nil => rfl
  | cons item items induction =>
      cases kept : keep item <;> simp [kept, induction]

/-- A rotation hands out what closing the intervals one by one hands out. -/
theorem rotate_snd : tracker.rotate.2 =
    tracker.counters.keys.flatMap fun entity => (tracker.close entity).2.toList := by
  rw [rotate, ← Std.ExtTreeMap.map_fst_toList_eq_keys, List.flatMap_map, map_filter_eq_flatMap]
  refine List.flatMap_congr fun entry listed => ?_
  have found := Std.ExtTreeMap.mem_toList_iff_getElem?_eq_some.mp listed
  cases idle : entry.2.interval.isEmpty <;> simp [close, found, idle]

end Tracker

end LoadAtlas
