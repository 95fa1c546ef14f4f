import LoadAtlas.Proofs.Engine.Timely

/-!
# Loads that follow the clock

A request is closed by the first rotation after it, which is at most one rotation interval away,
and expires one retention after it was closed.  So the load counts the requests of the last
retention, and none that are older by more than one rotation interval.
-/

namespace LoadAtlas

namespace Chronicle

variable {config : Config} {resolution : Nat} {chronicle : Chronicle}

theorem timely_of_start {engine : Engine}
    (started : Engine.startAt resolution config = .ok engine) :
    Timely config resolution { engine } := by
  obtain ⟨tracker, known, orderly, rfl⟩ := Engine.orderly_of_startAt started
  obtain ⟨_, rfl⟩ := Tracker.start_eq_ok_iff.mp known
  let fresh : Timetable Duty := { resolution := resolution }
  have going : fresh.stopped = false := rfl
  have nothing (entity : String) : Tracker.counter { atlas := { config } } entity = {} := by
    simp [Tracker.counter]
  have held (times : Nat → Bool) (entity : String) :
      Duty.heldIn (fresh.submitAll [Engine.rotation config]) times entity = 0 := by
    rw [Duty.heldIn_submitAll_of_idle going (by simp [Engine.rotation, Duty.held])]
    rfl
  obtain ⟨rotation, member, plan⟩ := Timetable.exists_timer_of_submission going
    (List.mem_singleton_self (Engine.rotation config))
  refine ⟨orderly, by simp, rfl, fun entity => ?_, fun entity time _ => Nat.zero_le _, rotation,
    member, congrArg Timetable.Submission.action plan, fun entity time _ _ => ?_⟩
  · rw [Tracker.load_eq, openedOf, nothing]
    exact ((Nat.zero_add _).trans (held _ entity)).symm
  · rw [openedOf, nothing]
    exact ((Nat.zero_add _).trans (held _ entity)).trans_le (Nat.zero_le _)

/-- No work is due any more. -/
def Settled (chronicle : Chronicle) : Prop :=
  ∀ timer ∈ chronicle.engine.timetable.timers, chronicle.now < timer.deadline

theorem settled_iff : chronicle.Settled ↔ chronicle.engine.due = 0 := by
  rw [Engine.due, Timetable.weigh, List.sum_eq_zero_iff]
  simp [Settled, now]

/-- Whatever is due can be done without any time going by. -/
theorem Timely.settled_wakes (timely : chronicle.Timely config resolution) (sound : config.Sound)
    (ticks : 0 < resolution) :
    (chronicle.run (List.replicate chronicle.engine.due .wake)).Settled ∧
      (chronicle.run (List.replicate chronicle.engine.due .wake)).now = chronicle.now ∧
      (chronicle.run (List.replicate chronicle.engine.due .wake)).arrivals =
        chronicle.arrivals := by
  obtain ⟨count, counted⟩ : ∃ count, chronicle.engine.due = count := ⟨_, rfl⟩
  rw [counted]
  induction count generalizing chronicle with
  | zero => exact ⟨settled_iff.mpr counted, rfl, rfl⟩
  | succ count induction =>
      obtain ⟨later, ran, now, less⟩ := timely.orderly.due_runNext? sound ticks (by omega)
      have woken : chronicle.step .wake = { chronicle with engine := later } := by
        simp only [Chronicle.step, ran]
      obtain ⟨settled, still, arrivals⟩ := induction (woken ▸ timely.wake)
        (Nat.add_right_cancel (less.trans counted))
      rw [List.replicate_succ, Chronicle.run, List.foldl_cons, woken]
      exact ⟨settled, still.trans now, arrivals⟩

theorem Timely.bounds (timely : chronicle.Timely config resolution) (settled : chronicle.Settled)
    (entity : String) :
    chronicle.arrivalsSince chronicle.now (config.retention.toNat * resolution) entity ≤
        chronicle.engine.tracker.load entity ∧
      chronicle.engine.tracker.load entity ≤ chronicle.arrivalsSince chronicle.now
        (config.rotationInterval.toNat * resolution + config.retention.toNat * resolution)
          entity := by
  have waits : chronicle.heldAfter chronicle.now entity = chronicle.heldOf entity :=
    Duty.heldIn_congr (fun timer member => decide_eq_true (settled timer member)) entity
  obtain ⟨rotation, member, _, bound⟩ := timely.most
  have soon := settled rotation member
  have most := bound entity chronicle.now le_rfl (by omega)
  have least := timely.least entity chronicle.now le_rfl
  rw [waits] at least most
  rw [timely.divided]
  exact ⟨least, most⟩

/-- The load of an engine lies between what came within a retention and what came within a
rotation interval more. -/
structure Approximate (config : Config) (resolution : Nat) (chronicle : Chronicle) : Prop where
  load : ∀ entity : String, ∃ load, chronicle.engine.load entity = .ok load ∧
    chronicle.arrivalsSince chronicle.now (config.retention.toNat * resolution) entity ≤ load ∧
    load ≤ chronicle.arrivalsSince chronicle.now
      (config.rotationInterval.toNat * resolution + config.retention.toNat * resolution) entity
  /-- Nothing is left of requests that came earlier. -/
  idle : ∀ entity : String, (∀ arrival ∈ chronicle.arrivals, arrival.entity = entity →
      arrival.time + config.rotationInterval.toNat * resolution +
        config.retention.toNat * resolution ≤ chronicle.now) →
    chronicle.engine.load entity = .ok 0
  recorded : chronicle.engine.tracker.recorded = chronicle.arrivals.length
  /-- Nothing keeps due work from being done: whatever happens next, waking as often as work is due
  leaves none due, and no time goes by with it. -/
  catchesUp : 0 < resolution → ∀ steps : List Step,
    ((chronicle.run steps).run
        (List.replicate (chronicle.run steps).engine.due .wake)).Settled ∧
      ((chronicle.run steps).run (List.replicate (chronicle.run steps).engine.due .wake)).now =
          (chronicle.run steps).now ∧
        ((chronicle.run steps).run
          (List.replicate (chronicle.run steps).engine.due .wake)).arrivals =
            (chronicle.run steps).arrivals

theorem approximate_of_start {engine : Engine}
    (started : Engine.startAt resolution config = .ok engine) (steps : List Step)
    (settled : (run { engine } steps).Settled) :
    Approximate config resolution (run { engine } steps) := by
  have timely := (timely_of_start started).run steps
  have answers := timely.orderly.load
  have bounds := timely.bounds settled
  obtain ⟨_, known, _⟩ := Engine.orderly_of_startAt started
  obtain ⟨sound, _⟩ := Tracker.start_eq_ok_iff.mp known
  refine ⟨fun entity => ⟨_, answers entity, bounds entity⟩, fun entity early => ?_,
    timely.recorded, fun ticks more => (timely.run more).settled_wakes sound ticks⟩
  have none : (run { engine } steps).arrivalsSince (run { engine } steps).now
      (config.rotationInterval.toNat * resolution + config.retention.toNat * resolution) entity =
        0 := by
    refine List.countP_eq_zero.mpr fun arrival member => ?_
    simp only [Bool.and_eq_true, beq_iff_eq, decide_eq_true_eq, not_and, not_lt]
    intro same
    have before := early arrival member same
    omega
  rw [answers, Nat.le_zero.mp ((bounds entity).2.trans none.le)]

/-- What waits after the first request of all and a rotation on demand. -/
theorem plans_of_first {engine : Engine} {entity : String} {location : Location}
    {address : Bucket.Address} (started : Engine.start config = .ok engine)
    (accepted : Tracker.accept { atlas := { config } } entity location = .ok address) :
    (run { engine } [.record entity location, .rotate]).now = 0 ∧
      (run { engine } [.record entity location, .rotate]).engine.timetable.timers.map
          Timetable.plan =
        [Engine.rotation config,
          ⟨config.mergeInterval.toNat, .sweep entity, some config.mergeInterval.toNat⟩,
          ⟨config.retention.toNat,
            .expire ⟨entity, Tally.add {} address.key address.location 1⟩, none⟩] := by
  obtain ⟨tracker, known, _, rfl⟩ := Engine.orderly_of_startAt started
  obtain ⟨_, rfl⟩ := Tracker.start_eq_ok_iff.mp known
  have new := Engine.newcomers_insertBucket config entity address 1
  simp [run, step, Engine.record, Engine.ensureOpen, Engine.isClosed, Tracker.record, accepted,
    bind, Except.bind, pure, Except.pure, Timetable.every, Timetable.submit, Timetable.submitAll,
    Engine.rotation, Engine.adopt, Engine.atlas, Tracker.chart, new, Tracker.count, Engine.rotate,
    Duty.perform, Tracker.rotate, Table.toList_insert_empty, Tally.isEmpty, Timetable.after,
    Engine.config, now]
  exact ⟨rfl, rfl, rfl⟩

/-- A request, a rotation on demand, and the rotation that the timetable asks for. -/
theorem approximate_standard :
    ∃ engine, Engine.start Config.standard = .ok engine ∧
      Approximate Config.standard 1 (run { engine }
        [.record "api" ⟨2.35, 48.85⟩, .rotate, .idle 10000, .wake]) := by
  obtain ⟨engine, started⟩ : ∃ engine, Engine.start Config.standard = .ok engine := ⟨_, rfl⟩
  obtain ⟨address, accepted⟩ := Tracker.exists_accept_standard
  obtain ⟨now, plans⟩ := plans_of_first started accepted
  obtain ⟨first, firstEq⟩ : ∃ first, run { engine } [.record "api" ⟨2.35, 48.85⟩, .rotate] =
    first := ⟨_, rfl⟩
  rw [firstEq] at now plans
  have deadlines : first.engine.timetable.timers.map Timer.deadline = [10000, 30000, 60000] := by
    have delays := congrArg (List.map Timetable.Submission.delay) plans
    rwa [List.map_map] at delays
  have early : ∀ timer ∈ first.engine.timetable.timers, 10000 ≤ timer.deadline := by
    rw [← List.forall_mem_map (P := (10000 ≤ ·)), deadlines]
    decide
  have due : (first.step (.idle 10000)).engine.due = 1 := by
    have clock : (first.engine.idleUntil 10000).timetable.now = 10000 :=
      congrArg (max · 10000) now
    have counted : ((first.engine.timetable.timers.map Timer.deadline).map fun deadline =>
        if deadline ≤ 10000 then 1 else 0).sum = 1 := by
      rw [deadlines]
      decide
    rw [List.map_map] at counted
    rw [step_idle early, Engine.due, clock]
    exact counted
  have settled := (((timely_of_start started).run
    [.record "api" ⟨2.35, 48.85⟩, .rotate]).step (.idle 10000)).settled_wakes
      (show Config.standard.fault? = none from rfl) Nat.one_pos
  refine ⟨engine, started, approximate_of_start started _ ?_⟩
  rw [firstEq, due] at settled
  rw [← firstEq] at settled
  exact settled.1

end Chronicle

end LoadAtlas
