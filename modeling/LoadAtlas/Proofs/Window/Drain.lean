import LoadAtlas.Proofs.Atlas.Bare
import LoadAtlas.Proofs.Window.Lockstep

/-!
# Draining a tracker

After one rotation no interval is open, and once all closed intervals have expired the windows
count nothing.  As the atlas counts what the windows count, all its clients are gone too, and
merging everything leaves it bare.  What is left are the entities and their top cells.
-/

namespace LoadAtlas

namespace Decay

variable {config : Config} {decay : Decay}

/-- The stores of a tracker are in step and its atlas is steady. -/
structure Steady (config : Config) (decay : Decay) : Prop where
  inStep : decay.InStep
  atlas : decay.tracker.atlas.Steady config
  /-- The entities with a counter are those with a territory. -/
  known : ∀ entity,
    entity ∈ decay.tracker.counters ↔ entity ∈ decay.tracker.atlas.territories

namespace Steady

theorem start {tracker : Tracker} (started : Tracker.start config = .ok tracker) :
    Steady config { tracker } := by
  refine ⟨.start started, ?_, fun entity => ?_⟩
  · obtain ⟨sound, rfl⟩ := Tracker.start_eq_ok_iff.mp started
    exact Atlas.steady_of_start (Atlas.start_eq_ok_iff.mpr ⟨sound, rfl⟩)
  · obtain ⟨_, rfl⟩ := Tracker.start_eq_ok_iff.mp started
    simp

variable (steady : decay.Steady config)

include steady

theorem expire {closed : ClosedInterval} (member : closed ∈ decay.waiting) :
    (decay.tracker.expire closed).atlas.Steady config ∧
      (∀ entity, (decay.tracker.expire closed).atlas.topCells? entity =
        decay.tracker.atlas.topCells? entity) ∧
      ∀ entity, entity ∈ (decay.tracker.expire closed).counters ↔
        entity ∈ decay.tracker.counters := by
  have sound : ∀ entry ∈ closed.requests.buckets.toList, entry.2.Sound entry.1 :=
    fun entry listed => (steady.inStep.waiting closed member).buckets entry.1 entry.2
      (Std.ExtTreeMap.mem_toList_iff_getElem?_eq_some.mp listed)
  refine ⟨steady.atlas.removeBuckets sound closed.entity, fun entity => ?_, fun entity => ?_⟩
  · exact decay.tracker.atlas.topCells?_removeBuckets closed.entity _ entity
  · exact Std.ExtTreeMap.mem_modify

theorem step (step : Step) : (decay.step step).Steady config := by
  have inStep := steady.inStep.step step
  cases step with
  | record entity location =>
      obtain refused | ⟨address, sound, recorded⟩ := decay.step_record_cases entity location
      · rwa [refused]
      · rw [recorded] at inStep ⊢
        refine ⟨inStep, steady.atlas.insertBucket sound entity, fun other => ?_⟩
        change other ∈ decay.tracker.counters.insert entity _ ↔ _
        rw [Std.ExtTreeMap.mem_insert, Std.LawfulEqCmp.compare_eq_iff_eq, steady.known]
        exact Atlas.mem_insertBucket_iff.symm
  | rotate =>
      refine ⟨inStep, steady.atlas, fun entity => ?_⟩
      exact Std.ExtTreeMap.mem_map.trans (steady.known entity)
  | expire index =>
      cases found : decay.waiting[index]? with
      | none => rwa [show decay.step (.expire index) = decay by simp [Decay.step, found]]
      | some closed =>
          obtain ⟨atlas, tops, counters⟩ := steady.expire (List.mem_of_getElem? found)
          simp only [Decay.step, found] at inStep ⊢
          refine ⟨inStep, atlas, fun entity => ?_⟩
          rw [counters, steady.known, Atlas.mem_territories_iff, Atlas.mem_territories_iff, tops]
  | mergeSweep entity =>
      cases done : decay.tracker.atlas.mergeSweep? entity with
      | none => rwa [show decay.step (.mergeSweep entity) = decay by simp [Decay.step, done]]
      | some result =>
          simp only [Decay.step, done] at inStep ⊢
          refine ⟨inStep, steady.atlas.mergeSweep done, fun other => (steady.known other).trans ?_⟩
          have tops := Atlas.topCells?_mergeSweep? steady.atlas.wellFormed done other
          rw [Atlas.mem_territories_iff, ← tops, ← Atlas.mem_territories_iff]
          rfl
  | mergeAll =>
      refine ⟨inStep, steady.atlas.mergeAll, fun other => (steady.known other).trans ?_⟩
      have tops := Atlas.topCells?_mergeAll steady.atlas.wellFormed other
      rw [Atlas.mem_territories_iff, ← tops, ← Atlas.mem_territories_iff]
      rfl
  | setOverride entity cells => exact ⟨inStep, steady.atlas.overrides _, steady.known⟩
  | clearOverride entity => exact ⟨inStep, steady.atlas.overrides _, steady.known⟩

theorem run (steps : List Step) : (decay.run steps).Steady config :=
  List.foldlRecOn (motive := Steady config) steps Decay.step steady
    fun _ known step _ => known.step step

end Steady

/-! ## After the last request -/

/-- A tracker whose intervals are closed, with the entities and the top cells of an earlier one. -/
structure Fading (config : Config) (before : Tracker) (decay : Decay) : Prop where
  steady : decay.Steady config
  closed : ∀ entity key, (decay.tracker.counter entity).interval.buckets.countOf key = 0
  counters : ∀ entity, entity ∈ decay.tracker.counters ↔ entity ∈ before.counters
  tops : ∀ entity, decay.tracker.atlas.topCells? entity = before.atlas.topCells? entity

theorem Steady.fading (steady : decay.Steady config) :
    Fading config decay.tracker (decay.step .rotate) where
  steady := steady.step .rotate
  closed entity := decay.tracker.countOf_interval_rotate (steady.inStep.interval entity).balanced
  counters _ := Std.ExtTreeMap.mem_map
  tops _ := rfl

namespace Fading

variable {before : Tracker} (fading : Fading config before decay)

include fading

theorem expire (index : Nat) : Fading config before (decay.step (.expire index)) := by
  have steady := fading.steady.step (.expire index)
  cases found : decay.waiting[index]? with
  | none => rwa [show decay.step (.expire index) = decay by simp [Decay.step, found]]
  | some closed =>
      obtain ⟨_, tops, counters⟩ := fading.steady.expire (List.mem_of_getElem? found)
      simp only [Decay.step, found] at steady ⊢
      refine ⟨steady, fun entity key => ?_, fun entity => ?_, fun entity => ?_⟩
      · rw [Tracker.expire, Tracker.interval_forget, Tracker.counter_withdraw]
        exact fading.closed entity key
      · exact (counters entity).trans (fading.counters entity)
      · exact (tops entity).trans (fading.tops entity)

theorem expireAll (expiries : List Nat) :
    Fading config before (decay.run (expiries.map .expire)) := by
  induction expiries generalizing decay with
  | nil => exact fading
  | cons index expiries induction => exact induction (fading.expire index)

/-- Once nothing waits any more, nothing is counted any more. -/
theorem countOf_eq_zero (emptied : decay.waiting = []) (entity key : String) :
    (decay.tracker.counter entity).window.buckets.countOf key = 0 := by
  rw [fading.steady.inStep.divided, fading.closed, emptied]
  rfl

end Fading

/-- What is known of all values of a table is known of one that is there. -/
theorem map_eq_map_of_mem_iff {First Second Seen : Type} {first : Std.ExtTreeMap String First}
    {second : Option Second} {key : String} {view : First → Seen} {seen : Seen}
    (same : key ∈ first ↔ second.isSome = true) (constant : ∀ value, first[key]? = some value →
      view value = seen) : first[key]?.map view = second.map fun _ => seen := by
  rw [Std.ExtTreeMap.mem_iff_isSome_getElem?] at same
  cases inFirst : first[key]? with
  | none =>
      cases second with
      | none => rfl
      | some other => simp [inFirst] at same
  | some value =>
      cases second with
      | none => simp [inFirst] at same
      | some other => exact congrArg some (constant value inFirst)

/-- What is left of a tracker when all requests have expired and all cells are merged. -/
structure Drained (before after : Tracker) : Prop where
  load : ∀ entity : String, after.load entity = 0
  /-- The entities are still known, each with an empty breakdown and no clients. -/
  breakdown : ∀ entity : String, after.breakdown? entity =
    (before.breakdown? entity).map fun _ => []
  clients : ∀ entity : String, after.atlas.clientCount? entity =
    (before.breakdown? entity).map fun _ => 0
  pending : after.pendingExpirations = 0
  topCells : ∀ entity : String, after.atlas.topCells? entity = before.atlas.topCells? entity
  /-- The cells are the top cells, all of them empty leaves. -/
  bare : ∀ (entity : String) (territory : Territory),
    after.atlas.territories[entity]? = some territory → territory.forest.Bare
  cells : after.atlas.stats.cells =
    (after.atlas.territories.toList.map fun entry => entry.2.forest.topCells.length).sum
  active : after.atlas.stats.activeCells = after.atlas.stats.cells
  merges : after.atlas.stats.merges = after.atlas.stats.splits

theorem Fading.drained {before : Tracker} (fading : Fading config before decay)
    (emptied : decay.waiting = []) : Drained before (decay.step .mergeAll).tracker := by
  have steady := fading.steady
  have merged := steady.step .mergeAll
  have nothing := fading.countOf_eq_zero emptied
  have window (entity : String) : (decay.tracker.counter entity).window = Tally.empty :=
    (steady.inStep.window entity).eq_empty (nothing entity)
  have bare : (decay.step .mergeAll).tracker.atlas.Bare :=
    steady.atlas.wellFormed.bare_mergeAll fun entity key => by
      rw [← steady.inStep.charted, nothing]
  have wellFormed := merged.atlas.wellFormed
  have cells := bare.cells_stats wellFormed
  have branches := wellFormed.cells_stats
  have counters (entity : String) := (fading.counters entity).trans before.mem_counters_iff
  rw [bare.branchCount_eq_zero, Nat.add_zero] at branches
  refine ⟨fun entity => ?_, fun entity => ?_, fun entity => ?_, ?_, fun entity => ?_,
    fun _ _ present => bare present, cells, branches.symm, ?_⟩
  · rw [Tracker.load_eq]
    exact congrArg Tally.total (window entity)
  · refine map_eq_map_of_mem_iff (counters entity)
      fun counter (present : decay.tracker.counters[entity]? = some counter) => ?_
    have known : decay.tracker.counter entity = counter := by
      rw [Tracker.counter, Std.ExtTreeMap.getD_eq_getD_getElem?, present, Option.getD_some]
    rw [← known, window, Tally.busiestFirst_empty]
  · refine map_eq_map_of_mem_iff ?_ fun territory present =>
      bare.clientCount_eq_zero wellFormed present
    exact (merged.known entity).symm.trans (counters entity)
  · exact steady.inStep.pending.trans (congrArg List.length emptied)
  · exact (Atlas.topCells?_mergeAll steady.atlas.wellFormed entity).trans (fading.tops entity)
  · exact (bare.splits_eq_merges merged.atlas.balanced).symm

/-- Whatever was recorded and swept before: after one rotation, the expiry of everything that
waits in whatever order, and the merge of everything, a tracker is drained. -/
theorem drained_of_start {tracker : Tracker} (started : Tracker.start config = .ok tracker)
    (steps : List Step) (expiries : List Nat)
    (emptied : (run { tracker } (steps ++ .rotate :: expiries.map .expire)).waiting = []) :
    Drained (run { tracker } steps).tracker
      (run { tracker } (steps ++ .rotate :: expiries.map .expire ++ [.mergeAll])).tracker := by
  have steady := (Steady.start started).run steps
  have fading := steady.fading.expireAll expiries
  unfold run at *
  rw [List.foldl_append, List.foldl_cons] at emptied
  rw [List.foldl_append, List.foldl_append, List.foldl_cons]
  exact fading.drained emptied

/-- All that waits expires, the oldest first. -/
theorem waiting_expireOldest (decay : Decay) :
    (decay.run (List.replicate decay.waiting.length (.expire 0))).waiting = [] := by
  obtain ⟨waits, waitsEq⟩ : ∃ waits, waits = decay.waiting := ⟨_, rfl⟩
  rw [← waitsEq]
  induction waits generalizing decay with
  | nil => exact waitsEq.symm
  | cons closed waits induction =>
      have found : decay.waiting[0]? = some closed := by simp [← waitsEq]
      have later : waits = (decay.step (.expire 0)).waiting := by
        simp only [step, found]
        rw [← waitsEq, List.eraseIdx_cons_zero]
      exact induction _ later

/-- Two entities with the standard configuration, a second request of one of them during the
next interval, and a sweep in between. -/
theorem drained_standard :
    let tracker : Tracker := { atlas := { config := Config.standard } }
    let steps : List Step := [.record "api" ⟨2.35, 48.85⟩, .record "web" ⟨-74.0, 40.7⟩, .rotate,
      .record "api" ⟨2.35, 48.85⟩, .mergeSweep "api"]
    let expiries := List.replicate ((run { tracker } steps).step .rotate).waiting.length 0
    Drained (run { tracker } steps).tracker
      (run { tracker } (steps ++ .rotate :: expiries.map .expire ++ [.mergeAll])).tracker := by
  intro tracker steps expiries
  have started : Tracker.start Config.standard = .ok tracker := rfl
  refine drained_of_start started steps expiries ?_
  rw [List.map_replicate, run, List.foldl_append, List.foldl_cons]
  exact waiting_expireOldest _

end Decay

end LoadAtlas
