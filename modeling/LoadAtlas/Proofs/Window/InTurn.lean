import LoadAtlas.Proofs.Window.Close

/-!
# One after the other

When nothing comes between the steps of a request, of a rotation or of an expiry, they do together
what the tracker does at once.
-/

namespace LoadAtlas

namespace Overlap

variable {overlap : Overlap}

theorem run_append (overlap : Overlap) (first second : List Step) :
    overlap.run (first ++ second) = (overlap.run first).run second :=
  List.foldl_append

/-- A request whose two steps follow each other is recorded. -/
theorem run_of_record {entity : String} {location : Location} {tracker : Tracker}
    (recorded : overlap.tracker.record entity location = .ok tracker) :
    overlap.run [.count entity location, .chart overlap.landing.length] =
      { overlap with tracker } := by
  obtain ⟨address, accepted, rfl⟩ := Tracker.record_eq_ok_iff.mp recorded
  simp [run, step, accepted, List.eraseIdx_append_of_length_le]

theorem run_closes (overlap : Overlap) {entities : List String} (nodup : entities.Nodup) :
    overlap.run (entities.map .close) = { overlap with
      tracker := { overlap.tracker with
        counters := overlap.tracker.counters.map fun entity counter =>
          if entity ∈ entities then counter.closed else counter
        pendingExpirations := overlap.tracker.pendingExpirations +
          (entities.flatMap fun entity => (overlap.tracker.close entity).2.toList).length }
      waiting := overlap.waiting ++
        entities.flatMap fun entity => (overlap.tracker.close entity).2.toList } := by
  induction entities generalizing overlap with
  | nil => simp [run]
  | cons entity entities induction =>
      obtain ⟨absent, rest⟩ := List.nodup_cons.mp nodup
      -- No entity is listed twice, so the intervals of the others are still as they were.
      have others : (entities.flatMap fun other =>
          ((overlap.tracker.close entity).1.close other).2.toList) =
            entities.flatMap fun other => (overlap.tracker.close other).2.toList :=
        List.flatMap_congr fun other listed => congrArg Option.toList <|
          overlap.tracker.close_snd_close entity fun same => absent (same ▸ listed)
      rw [List.map_cons, run, List.foldl_cons]
      refine (induction _ rest).trans ?_
      simp only [step, others]
      rw [Tracker.close_fst]
      simp only [List.flatMap_cons, List.length_append, List.append_assoc, Nat.add_assoc]
      congr 2
      apply Std.ExtTreeMap.ext_getElem?
      intro other
      simp only [Std.ExtTreeMap.getElem?_map, Option.map_map]
      congr 1
      funext counter
      by_cases hit : entity = other
      · subst hit
        simp [absent]
      · simp [hit, Ne.symm hit]

/-- Closing the interval of each entity and counting the rotation is a rotation. -/
theorem run_of_rotate (overlap : Overlap) :
    overlap.run (overlap.tracker.counters.keys.map .close ++ [.turn]) = { overlap with
      tracker := overlap.tracker.rotate.1
      waiting := overlap.waiting ++ overlap.tracker.rotate.2 } := by
  have counters : overlap.tracker.rotate.1.counters =
      overlap.tracker.counters.map fun entity counter =>
        if entity ∈ overlap.tracker.counters.keys then counter.closed else counter := by
    apply Std.ExtTreeMap.ext_getElem?
    intro entity
    simp only [Tracker.rotate, Std.ExtTreeMap.getElem?_map]
    cases found : overlap.tracker.counters[entity]? with
    | none => rfl
    | some counter =>
        have listed : entity ∈ overlap.tracker.counters.keys :=
          Std.ExtTreeMap.mem_keys.mpr (Std.ExtTreeMap.mem_iff_isSome_getElem?.mpr (by simp [found]))
        simp [listed, Counter.closed]
  have pending : overlap.tracker.rotate.1.pendingExpirations =
      overlap.tracker.pendingExpirations + overlap.tracker.rotate.2.length := by
    simp [Tracker.rotate]
  rw [run_append, run_closes overlap Std.ExtTreeMap.nodup_keys, ← Tracker.rotate_snd, ← counters,
    ← pending]
  rfl

theorem run_withdraws {before : List Leaving} {closed : ClosedInterval}
    {buckets : List (String × Bucket)} (overlap : Overlap)
    (under : overlap.leaving = before ++ [⟨closed, buckets⟩]) :
    ∃ shortfalls, overlap.run (buckets.map fun _ => .withdraw before.length 0) =
      { overlap.withAtlas (overlap.tracker.atlas.removeBuckets closed.entity buckets) with
        leaving := before ++ [⟨closed, []⟩]
        shortfalls } := by
  induction buckets generalizing overlap with
  | nil =>
      refine ⟨overlap.shortfalls, ?_⟩
      rw [← under]
      rfl
  | cons entry entries induction =>
      have first : overlap.step (.withdraw before.length 0) =
          overlap.withdraw before.length ⟨closed, entry :: entries⟩ 0 entry := by
        simp [step, under]
      obtain ⟨shortfalls, rest⟩ := induction
        (overlap.withdraw before.length ⟨closed, entry :: entries⟩ 0 entry) (by
          simp [withdraw, under])
      refine ⟨shortfalls, ?_⟩
      rw [List.map_cons, run, List.foldl_cons, first]
      exact rest

/-- An expiry whose steps follow each other takes its interval out of the atlas and the window. -/
theorem run_of_expire {interval : Nat} {closed : ClosedInterval}
    (found : overlap.waiting[interval]? = some closed) :
    ∃ shortfalls, overlap.run (.begin interval ::
        (closed.requests.buckets.toList.map (fun _ => .withdraw overlap.leaving.length 0) ++
          [.forget overlap.leaving.length])) =
      { overlap with
        tracker := overlap.tracker.expire closed
        waiting := overlap.waiting.eraseIdx interval
        shortfalls } := by
  have first : overlap.step (.begin interval) = { overlap with
      waiting := overlap.waiting.eraseIdx interval
      leaving := overlap.leaving ++ [⟨closed, closed.requests.buckets.toList⟩] } := by
    simp only [step, found]
  obtain ⟨shortfalls, withdrawn⟩ := run_withdraws (overlap.step (.begin interval))
    (congrArg leaving first)
  refine ⟨shortfalls, ?_⟩
  rw [run, List.foldl_cons]
  refine (run_append _ _ _).trans ?_
  rw [withdrawn, first]
  simp [run, step, withAtlas, Tracker.expire, Tracker.withdraw,
    List.eraseIdx_append_of_length_le]

end Overlap

end LoadAtlas
