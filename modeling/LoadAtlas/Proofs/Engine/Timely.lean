import LoadAtlas.Engine.Chronicle
import LoadAtlas.Proofs.Engine.Held

/-!
# What will still be counted

Seen from any later time, the requests that will still be counted then are those that are open
and those whose expiry is scheduled for afterwards.  They are no fewer than the requests that came
within one retention before that time, and, up to one retention after the next rotation, no more
than those that came within one rotation interval more.  Both bounds are stated for all later
times at once, so that they hold on while time goes by.
-/

namespace LoadAtlas

namespace Chronicle

variable {config : Config} {resolution : Nat} {chronicle : Chronicle}

/-- The requests of an entity since the last rotation. -/
def openedOf (chronicle : Chronicle) (entity : String) : Nat :=
  (chronicle.engine.tracker.counter entity).interval.total

/-- The requests of an entity that wait for their expiry. -/
def heldOf (chronicle : Chronicle) (entity : String) : Nat :=
  Duty.heldIn chronicle.engine.timetable (fun _ => true) entity

/-- The requests of an entity that wait for an expiry after a time. -/
def heldAfter (chronicle : Chronicle) (time : Nat) (entity : String) : Nat :=
  Duty.heldIn chronicle.engine.timetable (fun deadline => time < deadline) entity

/-- The number of requests of an entity that came less than a span before a time. -/
def arrivalsSince (chronicle : Chronicle) (time span : Nat) (entity : String) : Nat :=
  chronicle.arrivals.countP fun arrival =>
    arrival.entity == entity && time < arrival.time + span

theorem arrivalsSince_append (chronicle : Chronicle) (engine : Engine) (arrival : Arrival)
    (time span : Nat) (entity : String) :
    arrivalsSince { engine, arrivals := chronicle.arrivals ++ [arrival] } time span entity =
      chronicle.arrivalsSince time span entity +
        if arrival.entity = entity ∧ time < arrival.time + span then 1 else 0 := by
  rw [arrivalsSince, List.countP_append, List.countP_singleton]
  simp [arrivalsSince]

theorem step_idle {time : Nat}
    (early : ∀ timer ∈ chronicle.engine.timetable.timers, time ≤ timer.deadline) :
    chronicle.step (.idle time) = { chronicle with engine := chronicle.engine.idleUntil time } :=
  if_pos (by simpa using early)

/-- A chronicle whose load follows the clock. -/
structure Timely (config : Config) (resolution : Nat) (chronicle : Chronicle) : Prop where
  orderly : chronicle.engine.Orderly config resolution
  past : ∀ arrival ∈ chronicle.arrivals, arrival.time ≤ chronicle.now
  recorded : chronicle.engine.tracker.recorded = chronicle.arrivals.length
  /-- A request that counts is open or waits for its expiry. -/
  divided : ∀ entity, chronicle.engine.tracker.load entity =
    chronicle.openedOf entity + chronicle.heldOf entity
  /-- Requests count for at least a retention. -/
  least : ∀ entity time, chronicle.now ≤ time →
    chronicle.arrivalsSince time (config.retention.toNat * resolution) entity ≤
      chronicle.openedOf entity + chronicle.heldAfter time entity
  /-- A rotation is scheduled, and requests count for no longer than a retention after it. -/
  most : ∃ timer ∈ chronicle.engine.timetable.timers, timer.action = .rotate ∧
    ∀ entity time, chronicle.now ≤ time →
      time < timer.deadline + config.retention.toNat * resolution →
        chronicle.openedOf entity + chronicle.heldAfter time entity ≤
          chronicle.arrivalsSince time (config.rotationInterval.toNat * resolution +
            config.retention.toNat * resolution) entity

namespace Timely

variable (timely : chronicle.Timely config resolution)

include timely

theorem arrivalsSince_eq_zero {time span : Nat} (later : chronicle.now + span ≤ time)
    (entity : String) : chronicle.arrivalsSince time span entity = 0 := by
  refine List.countP_eq_zero.mpr fun arrival member => ?_
  have past := timely.past arrival member
  simp only [Bool.and_eq_true, decide_eq_true_eq, not_and]
  omega

/-- Nothing waits for longer than a retention. -/
theorem heldAfter_eq_zero {time : Nat}
    (later : chronicle.now + config.retention.toNat * resolution ≤ time) (entity : String) :
    chronicle.heldAfter time entity = 0 := by
  refine Duty.heldIn_eq_zero (fun timer member closed duty => ?_) entity
  have soon := (timely.orderly.fits timer member).soon
  rw [duty] at soon
  exact decide_eq_false (not_lt.mpr (soon.trans later))

theorem idle {time : Nat}
    (early : ∀ timer ∈ chronicle.engine.timetable.timers, time ≤ timer.deadline) :
    Timely config resolution { chronicle with engine := chronicle.engine.idleUntil time } := by
  have later : chronicle.now ≤ max chronicle.now time := le_max_left _ _
  obtain ⟨timer, member, rotates, bound⟩ := timely.most
  exact ⟨timely.orderly.idleUntil early,
    fun arrival listed => (timely.past arrival listed).trans later, timely.recorded,
    timely.divided, fun entity time after => timely.least entity time (later.trans after),
    timer, member, rotates, fun entity time after => bound entity time (later.trans after)⟩

/-- Work that neither counts requests nor takes them away. -/
theorem unaffected {engine : Engine} (orderly : engine.Orderly config resolution)
    (now : engine.timetable.now = chronicle.now)
    (counters : engine.tracker.counters = chronicle.engine.tracker.counters)
    (recorded : engine.tracker.recorded = chronicle.engine.tracker.recorded)
    (held : ∀ times entity, Duty.heldIn engine.timetable times entity =
      Duty.heldIn chronicle.engine.timetable times entity)
    (kept : ∀ timer ∈ chronicle.engine.timetable.timers, timer.action = .rotate →
      timer ∈ engine.timetable.timers) :
    Timely config resolution { chronicle with engine } := by
  have counter (entity : String) :
      engine.tracker.counter entity = chronicle.engine.tracker.counter entity := by
    rw [Tracker.counter, Tracker.counter, counters]
  have opened (entity : String) :
      openedOf { chronicle with engine } entity = chronicle.openedOf entity :=
    congrArg (fun counter => counter.interval.total) (counter entity)
  have after (time : Nat) (entity : String) :
      heldAfter { chronicle with engine } time entity = chronicle.heldAfter time entity :=
    held _ entity
  obtain ⟨timer, member, rotates, bound⟩ := timely.most
  refine ⟨orderly, fun arrival listed => (timely.past arrival listed).trans now.ge,
    recorded.trans timely.recorded, fun entity => ?_, fun entity time later => ?_,
    timer, kept timer member rotates, rotates, fun entity time later early => ?_⟩
  · have whole : heldOf { chronicle with engine } entity = chronicle.heldOf entity := held _ entity
    have divided := timely.divided entity
    rw [Tracker.load_eq] at divided ⊢
    rw [opened, whole, ← divided]
    exact congrArg (fun counter => counter.window.total) (counter entity)
  · rw [opened, after]
    exact timely.least entity time (now ▸ later)
  · rw [opened, after]
    exact bound entity time (now ▸ later) early

/-- A rotation closes what is open, to expire one retention later. -/
theorem rotated {engine : Engine} (orderly : engine.Orderly config resolution)
    (tracker : engine.tracker = chronicle.engine.tracker.rotate.1)
    (now : engine.timetable.now = chronicle.now)
    (held : ∀ times entity, Duty.heldIn engine.timetable times entity =
      Duty.heldIn chronicle.engine.timetable times entity +
        if times (chronicle.now + config.retention.toNat * resolution) then
          chronicle.openedOf entity
        else 0)
    (rotates : ∃ timer ∈ engine.timetable.timers, timer.action = .rotate) :
    Timely config resolution { chronicle with engine } := by
  have opened (entity : String) : openedOf { chronicle with engine } entity = 0 := by
    rw [openedOf, tracker]
    exact chronicle.engine.tracker.total_interval_rotate entity
  have after (time : Nat) (entity : String) :
      heldAfter { chronicle with engine } time entity = chronicle.heldAfter time entity +
        if time < chronicle.now + config.retention.toNat * resolution then
          chronicle.openedOf entity
        else 0 := by
    have known := held (fun deadline => time < deadline) entity
    simp only [decide_eq_true_eq] at known
    exact known
  obtain ⟨timer, member, rotates⟩ := rotates
  refine ⟨orderly, fun arrival listed => (timely.past arrival listed).trans now.ge, ?_,
    fun entity => ?_, fun entity time later => ?_, timer, member, rotates,
    fun entity time later _ => ?_⟩
  · rw [tracker]
    exact timely.recorded
  · have whole : heldOf { chronicle with engine } entity =
        chronicle.heldOf entity + chronicle.openedOf entity := held _ entity
    rw [opened, whole, tracker, Tracker.load_rotate, timely.divided, Nat.zero_add]
    exact Nat.add_comm _ _
  · have sinceRotation : chronicle.now ≤ time := now ▸ later
    have least := timely.least entity time sinceRotation
    rw [opened, after]
    by_cases soon : time < chronicle.now + config.retention.toNat * resolution
    · rw [if_pos soon]
      exact least.trans (by omega)
    · exact (timely.arrivalsSince_eq_zero (not_lt.mp soon) entity).le.trans (Nat.zero_le _)
  · -- Up to one retention from now the rotation that was due next gives the bound.  After that
    -- nothing is held any more, so it does not matter which rotation is due next now.
    have sinceRotation : chronicle.now ≤ time := now ▸ later
    rw [opened, after]
    by_cases soon : time < chronicle.now + config.retention.toNat * resolution
    · obtain ⟨previous, listed, _, bound⟩ := timely.most
      have ahead : chronicle.now ≤ previous.deadline := (timely.orderly.fits previous listed).ahead
      have most := bound entity time sinceRotation (soon.trans_le (Nat.add_le_add_right ahead _))
      rw [if_pos soon]
      exact le_trans (by omega) most
    · rw [if_neg soon, timely.heldAfter_eq_zero (not_lt.mp soon)]
      exact Nat.zero_le _

/-- A request opens an interval or joins the one that is open. -/
theorem arrived {entity : String} {location : Location} {tracker : Tracker}
    (recorded : chronicle.engine.tracker.record entity location = .ok tracker) :
    Timely config resolution
      { engine := chronicle.engine.adopt tracker
        arrivals := chronicle.arrivals ++ [⟨entity, chronicle.now⟩] } := by
  obtain ⟨address, _, rfl⟩ := Tracker.record_eq_ok_iff.mp recorded
  let counted := (chronicle.engine.tracker.count entity address).chart entity address
  let after : Chronicle :=
    { engine := chronicle.engine.adopt counted
      arrivals := chronicle.arrivals ++ [⟨entity, chronicle.now⟩] }
  have now : after.now = chronicle.now := chronicle.engine.now_adopt counted
  have opened (other : String) : after.openedOf other =
      chronicle.openedOf other + if entity = other then 1 else 0 :=
    chronicle.engine.tracker.total_interval_count entity address other
  have held := Duty.heldIn_adopt timely.orderly.going counted
  have heldOf (other : String) : after.heldOf other = chronicle.heldOf other := held _ other
  have heldAfter (time : Nat) (other : String) :
      after.heldAfter time other = chronicle.heldAfter time other := held _ other
  have arrivals (time span : Nat) (other : String) : after.arrivalsSince time span other = _ :=
    chronicle.arrivalsSince_append _ ⟨entity, chronicle.now⟩ time span other
  obtain ⟨rotation, listed, rotates, bound⟩ := timely.most
  have ends := (timely.orderly.fits rotation listed).soon
  rw [rotates, Duty.delay] at ends
  change Timely config resolution after
  refine ⟨timely.orderly.adopt rfl, fun arrival member => ?_, ?_, fun other => ?_,
    fun other time later => ?_, rotation, ?_, rotates, fun other time later early => ?_⟩
  · rw [now]
    rcases List.mem_append.mp member with before | new
    · exact timely.past arrival before
    · obtain rfl := List.mem_singleton.mp new
      exact le_rfl
  · rw [List.length_append, ← timely.recorded]
    rfl
  · have load : after.engine.tracker.load other = _ :=
      chronicle.engine.tracker.load_count entity address other
    rw [load, timely.divided, opened, heldOf]
    exact Nat.add_right_comm _ _ _
  · have least := timely.least other time (now ▸ later)
    rw [opened, heldAfter, arrivals]
    by_cases hit : entity = other
    · simp only [hit, true_and, ↓reduceIte]
      split <;> omega
    · simp only [hit, false_and, ↓reduceIte]
      omega
  · change rotation ∈ (chronicle.engine.adopt counted).timetable.timers
    rw [Engine.adopt_eq_submitAll]
    exact Timetable.mem_submitAll_of_mem timely.orderly.going _ listed
  · -- The next rotation is one interval away at most, so the bound counts the new request too.
    have most := bound other time (now ▸ later) early
    have soon : time < chronicle.now + (config.rotationInterval.toNat * resolution +
        config.retention.toNat * resolution) := by
      simp only [Chronicle.now]
      omega
    rw [opened, heldAfter, arrivals]
    simp only [soon, and_true]
    omega

theorem rotate : Timely config resolution (chronicle.step .rotate) := by
  obtain ⟨rotation, listed, rotates, _⟩ := timely.most
  have configured : chronicle.engine.tracker.atlas.config = config := timely.orderly.configured
  have outcome := chronicle.engine.rotate_eq_submitAll
  have timetable := congrArg Engine.timetable outcome
  refine timely.rotated timely.orderly.rotate (congrArg Engine.tracker outcome) ?_
    (fun times entity => ?_) ⟨rotation, ?_, rotates⟩
  · rw [timetable]
    exact (chronicle.engine.timetable.clock_submitAll _).1
  · have held := Duty.heldIn_submitAll_expiries timely.orderly.going chronicle.engine.tracker
      times entity
    rw [timetable]
    rwa [configured, timely.orderly.ticking] at held
  · rw [timetable]
    exact Timetable.mem_submitAll_of_mem timely.orderly.going _ listed

section Work

variable {timer : Timer Duty} (member : timer ∈ chronicle.engine.timetable.timers)

include member

/-- Timers for other duties stay while the work of one is done. -/
theorem mem_work {other : Timer Duty} (listed : other ∈ chronicle.engine.timetable.timers)
    (different : other.action ≠ timer.action) :
    other ∈ (chronicle.engine.work timer).timetable.timers := by
  have going : (chronicle.engine.timetable.withdraw timer).stopped = false := timely.orderly.going
  exact Timetable.mem_submitAll_of_mem going _ (timely.orderly.numbered.mem_withdraw member listed
    fun same => different (congrArg Timer.action same))

/-- The rotation that is due submits the next one. -/
theorem work_rotate (duty : timer.action = .rotate) :
    Timely config resolution { chronicle with engine := chronicle.engine.work timer } := by
  have going : (chronicle.engine.timetable.withdraw timer).stopped = false := timely.orderly.going
  have configured : chronicle.engine.tracker.atlas.config = config := timely.orderly.configured
  have ticking : (chronicle.engine.timetable.withdraw timer).resolution = resolution :=
    timely.orderly.ticking
  have renewed : Timetable.renewal timer true = [Engine.rotation config] := by
    have period := (timely.orderly.fits timer member).period
    rw [duty] at period
    simp [Timetable.renewal, period, duty, Duty.period?, Engine.rotation]
  have submissions : Engine.aftermath chronicle.engine.tracker timer =
      Engine.expiries chronicle.engine.tracker ++ [Engine.rotation config] := by
    rw [← renewed, Engine.aftermath, duty]
    simp [Duty.perform, Engine.expiries]
  obtain ⟨next, waits, plan⟩ := Timetable.exists_timer_of_submission going
    (List.mem_append_right (Engine.expiries chronicle.engine.tracker)
      (List.mem_singleton_self (Engine.rotation config)))
  refine timely.rotated (timely.orderly.work member) ?_
    ((chronicle.engine.timetable.withdraw timer).clock_submitAll _).1 (fun times entity => ?_)
    ⟨next, ?_, congrArg Timetable.Submission.action plan⟩
  · rw [Engine.work, duty]
    rfl
  · have held := Duty.heldIn_submitAll_expiries going chronicle.engine.tracker times entity
    have base := Duty.heldIn_withdraw timely.orderly.numbered member times entity
    rw [duty, Duty.held, ite_self, Nat.add_zero] at base
    rw [base, configured, ticking] at held
    rw [Engine.work, submissions, Timetable.submitAll_append, Duty.heldIn_submitAll_of_idle]
    · exact held
    · exact ((chronicle.engine.timetable.withdraw timer).clock_submitAll _).2.2.trans going
    · intro submission listed other
      rw [List.mem_singleton.mp listed, Engine.rotation, Duty.held]
  · rw [Engine.work, submissions]
    exact waits

/-- Only a rotation leaves requests to expire. -/
theorem heldIn_work (different : timer.action ≠ .rotate) (times : Nat → Bool) (entity : String) :
    Duty.heldIn (chronicle.engine.work timer).timetable times entity +
        (if times timer.deadline then timer.action.held entity else 0) =
      Duty.heldIn chronicle.engine.timetable times entity := by
  have going : (chronicle.engine.timetable.withdraw timer).stopped = false := timely.orderly.going
  have idle : ∀ submission ∈ Engine.aftermath chronicle.engine.tracker timer, ∀ entity,
      submission.action.held entity = 0 := by
    intro submission listed other
    have none : (timer.action.perform chronicle.engine.tracker).submissions = [] := by
      cases duty : timer.action with
      | rotate => exact absurd duty different
      | expire closed => rfl
      | sweep entity =>
          rw [Duty.perform]
          split <;> rfl
    rw [Engine.aftermath, none, List.map_nil, List.nil_append] at listed
    obtain ⟨period, periodic, rfl⟩ := Timetable.eq_of_mem_renewal listed
    have known := (timely.orderly.fits timer member).period
    cases duty : timer.action with
    | rotate => exact absurd duty different
    | expire closed => simp [periodic, duty, Duty.period?] at known
    | sweep entity => rfl
  have base := Duty.heldIn_withdraw timely.orderly.numbered member times entity
  rwa [← Duty.heldIn_submitAll_of_idle going idle] at base

theorem work_expire {closed : ClosedInterval} (duty : timer.action = .expire closed)
    (due : timer.deadline ≤ chronicle.now) :
    Timely config resolution { chronicle with engine := chronicle.engine.work timer } := by
  have tracker : (chronicle.engine.work timer).tracker =
      chronicle.engine.tracker.expire closed := by
    rw [Engine.work, duty]
    rfl
  have held := timely.heldIn_work member (by simp [duty])
  have opened (entity : String) :
      openedOf { chronicle with engine := chronicle.engine.work timer } entity =
        chronicle.openedOf entity := by
    rw [openedOf, tracker]
    exact congrArg Tally.total
      ((chronicle.engine.tracker.withdraw closed).interval_forget closed entity)
  -- Seen from now on, requests whose time has come were not held any more.
  have after {time : Nat} (later : chronicle.now ≤ time) (entity : String) :
      heldAfter { chronicle with engine := chronicle.engine.work timer } time entity =
        chronicle.heldAfter time entity := by
    have expired : decide (time < timer.deadline) = false :=
      decide_eq_false (not_lt.mpr (due.trans later))
    have same := held (fun deadline => time < deadline) entity
    simp only [expired, Bool.false_eq_true, ↓reduceIte, Nat.add_zero] at same
    exact same
  have now : (chronicle.engine.work timer).timetable.now = chronicle.now :=
    ((chronicle.engine.timetable.withdraw timer).clock_submitAll _).1
  obtain ⟨rotation, listed, rotates, bound⟩ := timely.most
  refine ⟨timely.orderly.work member,
    fun arrival listed => (timely.past arrival listed).trans now.ge, ?_, fun entity => ?_,
    fun entity time later => ?_, rotation,
    timely.mem_work member listed (by simp [rotates, duty]), rotates,
    fun entity time later early => ?_⟩
  · rw [tracker]
    exact timely.recorded
  · have divided := timely.divided entity
    have all : heldOf { chronicle with engine := chronicle.engine.work timer } entity +
        closed.totalOf entity = chronicle.heldOf entity := by
      have whole := held (fun _ => true) entity
      rwa [if_pos rfl, duty, Duty.held] at whole
    have load : (chronicle.engine.tracker.expire closed).load entity =
        chronicle.engine.tracker.load entity - closed.totalOf entity :=
      (chronicle.engine.tracker.withdraw closed).load_forget closed entity
    rw [tracker, opened]
    omega
  · rw [opened, after (now ▸ later)]
    exact timely.least entity time (now ▸ later)
  · rw [opened, after (now ▸ later)]
    exact bound entity time (now ▸ later) early

theorem work_sweep {entity : String} (duty : timer.action = .sweep entity) :
    Timely config resolution { chronicle with engine := chronicle.engine.work timer } := by
  have tracker : (chronicle.engine.work timer).tracker.counters =
        chronicle.engine.tracker.counters ∧
      (chronicle.engine.work timer).tracker.recorded = chronicle.engine.tracker.recorded := by
    rw [Engine.work, duty, Duty.perform]
    split <;> exact ⟨rfl, rfl⟩
  refine timely.unaffected (timely.orderly.work member)
    ((chronicle.engine.timetable.withdraw timer).clock_submitAll _).1 tracker.1 tracker.2
    (fun times other => ?_)
    fun rotation listed rotates => timely.mem_work member listed (by simp [rotates, duty])
  have held := timely.heldIn_work member (by simp [duty]) times other
  rwa [duty, Duty.held, ite_self, Nat.add_zero] at held

theorem work (due : timer.deadline ≤ chronicle.now) :
    Timely config resolution { chronicle with engine := chronicle.engine.work timer } := by
  cases duty : timer.action with
  | rotate => exact timely.work_rotate member duty
  | expire closed => exact timely.work_expire member duty due
  | sweep entity => exact timely.work_sweep member duty

end Work

theorem wake : Timely config resolution (chronicle.step .wake) := by
  rw [Chronicle.step]
  cases ran : chronicle.engine.runNext? with
  | none => exact timely
  | some later =>
      obtain ⟨timer, member, least, rfl⟩ := Engine.exists_of_runNext? ran
      exact (timely.idle least).work member (le_max_right _ _)

theorem step (step : Step) : Timely config resolution (chronicle.step step) := by
  cases step with
  | record entity location =>
      have outcome := timely.orderly.record entity location
      cases recorded : chronicle.engine.tracker.record entity location with
      | error fault =>
          rw [recorded, Except.map] at outcome
          simpa only [Chronicle.step, outcome] using timely
      | ok tracker =>
          rw [recorded, Except.map] at outcome
          simp only [Chronicle.step, outcome]
          exact timely.arrived recorded
  | rotate => exact timely.rotate
  | wake => exact timely.wake
  | idle time =>
      by_cases early : ∀ timer ∈ chronicle.engine.timetable.timers, time ≤ timer.deadline
      · rw [step_idle early]
        exact timely.idle early
      · rwa [Chronicle.step, if_neg (by simpa using early)]

theorem run (steps : List Step) : Timely config resolution (chronicle.run steps) :=
  List.foldlRecOn (motive := Timely config resolution) steps Chronicle.step timely
    fun _ known step _ => known.step step

end Timely

end Chronicle

end LoadAtlas
