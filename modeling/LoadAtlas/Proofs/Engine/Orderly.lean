import LoadAtlas.Engine.Wait
import LoadAtlas.Proofs.Config.Sound
import LoadAtlas.Proofs.Engine.Timetable
import LoadAtlas.Proofs.Window.Counter

/-!
# Engines in order

Whatever an engine submits, it submits with the delay and the period of its duty: a rotation and
a sweep come back after their period, an expiry comes once.  So each timer is due no later than
its duty's delay from now, and none is overdue as long as the clock stops for them.

Work that is due can be done at once.  It leaves one duty less that is due, as no delay is empty.
-/

namespace LoadAtlas

namespace Duty

variable {config : Config} {duty : Duty}

/-- The time between the submission of a duty and its run, in milliseconds. -/
def delay (config : Config) : Duty → Nat
  | .rotate => config.rotationInterval.toNat
  | .expire _ => config.retention.toNat
  | .sweep _ => config.mergeInterval.toNat

def period? (config : Config) : Duty → Option Nat
  | .rotate => some config.rotationInterval.toNat
  | .expire _ => none
  | .sweep _ => some config.mergeInterval.toNat

theorem delay_pos (sound : config.Sound) (duty : Duty) : 0 < duty.delay config := by
  cases duty with
  | rotate => exact sound.rotationInterval_pos
  | expire closed => exact sound.retention_pos
  | sweep entity => exact sound.mergeInterval_pos

theorem delay_of_period? {period : Nat} (periodic : duty.period? config = some period) :
    duty.delay config = period := by
  cases duty <;> simp_all [period?, delay]

/-- No duty changes the configuration. -/
theorem config_perform (duty : Duty) (tracker : Tracker) :
    (duty.perform tracker).state.atlas.config = tracker.atlas.config := by
  cases duty with
  | rotate => rfl
  | expire closed => exact tracker.atlas.config_removeBuckets closed.entity _
  | sweep entity =>
      cases done : tracker.atlas.mergeSweep? entity with
      | none => simp [perform, done]
      | some result =>
          simp only [perform, done]
          rw [Atlas.eq_of_mergeSweep? done]
          rfl

end Duty

namespace Engine

open Timetable (Submission)

variable {config : Config} {resolution : Nat} {engine : Engine} {timer : Timer Duty}

/-! ## What is submitted -/

/-- A submission has the delay and the period of its duty. -/
def Proper (config : Config) (submission : Submission Duty) : Prop :=
  submission.delay = submission.action.delay config ∧
    submission.period = submission.action.period? config

/-- What keeps an engine rotating. -/
def rotation (config : Config) : Submission Duty :=
  ⟨config.rotationInterval.toNat, .rotate, some config.rotationInterval.toNat⟩

/-- The sweeps that an engine submits when it finds new entities in a tracker. -/
def sweeps (engine : Engine) (tracker : Tracker) : List (Submission Duty) :=
  (newcomers engine.atlas tracker.atlas).map fun entity =>
    ⟨engine.config.mergeInterval.toNat, .sweep entity, some engine.config.mergeInterval.toNat⟩

/-- The entity of the first request of all is swept from then on. -/
theorem newcomers_insertBucket (config : Config) (entity : String) (address : Bucket.Address)
    (amount : Nat) :
    newcomers { config } (Atlas.insertBucket { config } entity address amount) = [entity] := by
  have territories : (Atlas.insertBucket { config } entity address amount).territories =
      (∅ : Std.ExtTreeMap String Territory).insert entity
        ((Atlas.territoryOf { config } entity).insert config address amount).1 := rfl
  rw [newcomers, Atlas.entities, territories, ← Std.ExtTreeMap.map_fst_toList_eq_keys,
    Table.toList_insert_empty]
  simp

theorem adopt_eq_submitAll (engine : Engine) (tracker : Tracker) : engine.adopt tracker =
    { engine with
      tracker
      timetable := engine.timetable.submitAll (engine.sweeps tracker) } := by
  simp only [adopt, sweeps, Timetable.submitAll, List.foldl_map]
  rfl

theorem now_adopt (engine : Engine) (tracker : Tracker) :
    (engine.adopt tracker).timetable.now = engine.timetable.now := by
  rw [adopt_eq_submitAll]
  exact (engine.timetable.clock_submitAll _).1

/-- The expiries of what a rotation closes. -/
def expiries (tracker : Tracker) : List (Submission Duty) :=
  tracker.rotate.2.map fun closed =>
    ⟨tracker.atlas.config.retention.toNat, .expire closed, none⟩

theorem rotate_eq_submitAll (engine : Engine) : engine.rotate.1 =
    { engine with
      tracker := engine.tracker.rotate.1
      timetable := engine.timetable.submitAll (expiries engine.tracker) } := by
  simp only [rotate, Duty.perform, expiries, Timetable.submitAll, List.foldl_map]
  rfl

/-- What the run of a timer submits. -/
def aftermath (tracker : Tracker) (timer : Timer Duty) : List (Submission Duty) :=
  (timer.action.perform tracker).submissions.map
      (fun submission => ⟨submission.1, submission.2, none⟩) ++
    Timetable.renewal timer (timer.action.perform tracker).again

/-- The engine after the work of a timer. -/
def work (engine : Engine) (timer : Timer Duty) : Engine :=
  { engine with
    tracker := (timer.action.perform engine.tracker).state
    timetable := (engine.timetable.withdraw timer).submitAll (aftermath engine.tracker timer) }

/-! ## Order -/

/-- What is known at some time of a timer that was submitted properly and is not overdue. -/
structure Fits (config : Config) (resolution now : Nat) (timer : Timer Duty) : Prop where
  ahead : now ≤ timer.deadline
  soon : timer.deadline ≤ now + timer.action.delay config * resolution
  period : timer.period = timer.action.period? config

theorem ensureOpen_of_open (opened : engine.closed = false) : engine.ensureOpen = .ok () := by
  rw [ensureOpen, isClosed, opened]
  rfl

/-- An engine that is open and whose timers were all submitted properly. -/
structure Orderly (config : Config) (resolution : Nat) (engine : Engine) : Prop where
  configured : engine.config = config
  isOpen : engine.closed = false
  ticking : engine.timetable.resolution = resolution
  going : engine.timetable.stopped = false
  numbered : engine.timetable.Numbered
  fits : ∀ timer ∈ engine.timetable.timers, Fits config resolution engine.timetable.now timer

namespace Orderly

variable (orderly : engine.Orderly config resolution)

include orderly

theorem ensureOpen : engine.ensureOpen = .ok () :=
  ensureOpen_of_open orderly.isOpen

/-- An engine that is open records what its tracker records. -/
theorem record (entity : String) (location : Location) : engine.record entity location =
    (engine.tracker.record entity location).map engine.adopt := by
  rw [Engine.record, orderly.ensureOpen]
  cases engine.tracker.record entity location <;> rfl

theorem load (entity : String) : engine.load entity = .ok (engine.tracker.load entity) := by
  rw [Engine.load, orderly.ensureOpen]
  rfl

theorem idleUntil {time : Nat}
    (early : ∀ timer ∈ engine.timetable.timers, time ≤ timer.deadline) :
    (engine.idleUntil time).Orderly config resolution where
  configured := orderly.configured
  isOpen := orderly.isOpen
  ticking := orderly.ticking
  going := orderly.going
  numbered := ⟨orderly.numbered.nodup, orderly.numbered.given⟩
  fits timer member := by
    obtain ⟨ahead, soon, period⟩ := orderly.fits timer member
    exact ⟨max_le ahead (early timer member),
      soon.trans (Nat.add_le_add_right (le_max_left _ _) _), period⟩

theorem withdraw (timer : Timer Duty) {tracker : Tracker}
    (same : tracker.atlas.config = engine.atlas.config) : Orderly config resolution
      { engine with tracker, timetable := engine.timetable.withdraw timer } where
  configured := same.trans orderly.configured
  isOpen := orderly.isOpen
  ticking := orderly.ticking
  going := orderly.going
  numbered := orderly.numbered.withdraw timer
  fits other member := orderly.fits other (List.mem_of_mem_filter member)

theorem submitAll {submissions : List (Submission Duty)}
    (proper : ∀ submission ∈ submissions, Proper config submission) {tracker : Tracker}
    (same : tracker.atlas.config = engine.atlas.config) : Orderly config resolution
      { engine with tracker, timetable := engine.timetable.submitAll submissions } := by
  obtain ⟨now, ticking, stopped⟩ := engine.timetable.clock_submitAll submissions
  refine ⟨same.trans orderly.configured, orderly.isOpen, ticking.trans orderly.ticking,
    stopped.trans orderly.going, orderly.numbered.submitAll submissions, fun timer member => ?_⟩
  rw [now]
  rcases Timetable.mem_submitAll orderly.going member with before | ⟨submission, listed, plan⟩
  · exact orderly.fits timer before
  · obtain ⟨delay, action, period⟩ := submission
    obtain ⟨properDelay, properPeriod⟩ := proper _ listed
    rw [Submission.due, Timetable.plan, Submission.mk.injEq, orderly.ticking] at plan
    obtain ⟨deadline, rfl, rfl⟩ := plan
    exact ⟨deadline ▸ Nat.le_add_right _ _, (deadline ▸ properDelay ▸ rfl : _ = _).le,
      properPeriod⟩

theorem proper_sweeps (tracker : Tracker) :
    ∀ submission ∈ engine.sweeps tracker, Proper config submission := by
  intro submission listed
  obtain ⟨entity, _, rfl⟩ := List.mem_map.mp listed
  rw [orderly.configured]
  exact ⟨rfl, rfl⟩

theorem proper_expiries :
    ∀ submission ∈ expiries engine.tracker, Proper config submission := by
  intro submission listed
  obtain ⟨closed, _, rfl⟩ := List.mem_map.mp listed
  exact ⟨congrArg (fun config => config.retention.toNat) orderly.configured, rfl⟩

theorem proper_aftermath (member : timer ∈ engine.timetable.timers) :
    ∀ submission ∈ aftermath engine.tracker timer, Proper config submission := by
  intro submission listed
  rcases List.mem_append.mp listed with submitted | renewed
  · cases duty : timer.action with
    | rotate =>
        rw [duty] at submitted
        simp only [Duty.perform, List.map_map] at submitted
        exact orderly.proper_expiries submission submitted
    | expire closed => simp [duty, Duty.perform] at submitted
    | sweep entity =>
        rw [duty, Duty.perform] at submitted
        split at submitted <;> simp at submitted
  · obtain ⟨period, periodic, rfl⟩ := Timetable.eq_of_mem_renewal renewed
    have known := (orderly.fits timer member).period
    rw [periodic] at known
    exact ⟨(Duty.delay_of_period? known.symm).symm, known⟩

theorem work (member : timer ∈ engine.timetable.timers) :
    (engine.work timer).Orderly config resolution :=
  (orderly.withdraw timer rfl).submitAll (orderly.proper_aftermath member)
    (timer.action.config_perform engine.tracker)

theorem adopt {tracker : Tracker} (same : tracker.atlas.config = engine.atlas.config) :
    (engine.adopt tracker).Orderly config resolution := by
  rw [adopt_eq_submitAll]
  exact orderly.submitAll (orderly.proper_sweeps tracker) same

theorem rotate : engine.rotate.1.Orderly config resolution := by
  rw [rotate_eq_submitAll]
  exact orderly.submitAll orderly.proper_expiries rfl

end Orderly

theorem orderly_of_startAt {config : Config} {engine : Engine}
    (started : startAt resolution config = .ok engine) :
    ∃ tracker, Tracker.start config = .ok tracker ∧ engine.Orderly config resolution ∧
      engine = ⟨tracker, Timetable.submitAll { resolution := resolution } [rotation config],
        false⟩ := by
  cases known : Tracker.start config with
  | error fault => simp [startAt, known, bind, Except.bind] at started
  | ok tracker =>
      obtain rfl : Engine.mk tracker (Timetable.submitAll { resolution := resolution }
          [rotation config]) false = engine := by
        simp only [startAt, known, bind, Except.bind, pure, Except.pure, Except.ok.injEq]
          at started
        exact started
      obtain ⟨_, rfl⟩ := Tracker.start_eq_ok_iff.mp known
      have empty : Orderly config resolution
          ⟨{ atlas := { config } }, { resolution := resolution }, false⟩ :=
        ⟨rfl, rfl, rfl, rfl, ⟨List.nodup_nil, by simp⟩, by simp⟩
      refine ⟨_, rfl, empty.submitAll (fun submission listed => ?_) rfl, rfl⟩
      rw [List.mem_singleton.mp listed]
      exact ⟨rfl, rfl⟩

/-! ## Work that is due -/

/-- The next work that is done is that of a timer that none is before. -/
theorem exists_of_runNext? {later : Engine} (ran : engine.runNext? = some later) :
    ∃ timer ∈ engine.timetable.timers,
      (∀ other ∈ engine.timetable.timers, timer.deadline ≤ other.deadline) ∧
        later = (engine.idleUntil timer.deadline).work timer := by
  obtain ⟨result, next, rfl⟩ := Option.map_eq_some_iff.mp ran
  obtain ⟨timer, member, least, rfl⟩ := Timetable.exists_of_runNext? next
  refine ⟨timer, member, least, ?_⟩
  rw [Timetable.run, Timetable.settle_eq_submitAll]
  rfl

/-- The number of timers whose time has come. -/
def due (engine : Engine) : Nat :=
  engine.timetable.weigh fun deadline _ => if deadline ≤ engine.timetable.now then 1 else 0

section Due

variable (orderly : engine.Orderly config resolution) (sound : config.Sound)
  (ticks : 0 < resolution)

include orderly sound ticks

theorem Orderly.due_work (member : timer ∈ engine.timetable.timers)
    (reached : timer.deadline ≤ engine.timetable.now) :
    (engine.work timer).timetable.now = engine.timetable.now ∧
      (engine.work timer).due + 1 = engine.due := by
  let weight : Nat → Duty → Nat := fun deadline _ =>
    if deadline ≤ engine.timetable.now then 1 else 0
  have going : (engine.timetable.withdraw timer).stopped = false := orderly.going
  have now : (engine.work timer).timetable.now = engine.timetable.now :=
    ((engine.timetable.withdraw timer).clock_submitAll _).1
  -- No delay is empty, so nothing that the work submits is due at once.
  have later : ((aftermath engine.tracker timer).map fun submission =>
      weight ((engine.timetable.withdraw timer).now +
        submission.delay * (engine.timetable.withdraw timer).resolution) submission.action).sum =
          0 := by
    refine List.sum_eq_zero fun amount listed => ?_
    obtain ⟨submission, member', rfl⟩ := List.mem_map.mp listed
    have delay := (orderly.proper_aftermath member submission member').1
    have positive : 0 < submission.delay * resolution :=
      Nat.mul_pos (delay ▸ submission.action.delay_pos sound) ticks
    have ticking : (engine.timetable.withdraw timer).resolution = resolution := orderly.ticking
    have same : (engine.timetable.withdraw timer).now = engine.timetable.now := rfl
    simp only [weight, ticking, same]
    exact if_neg (by omega)
  have submitted := Timetable.weigh_submitAll going weight (aftermath engine.tracker timer)
  have withdrawn := orderly.numbered.weigh_withdraw member weight
  have counted : (engine.work timer).due = (engine.work timer).timetable.weigh weight := by
    rw [due, now]
  refine ⟨now, ?_⟩
  rw [counted, Engine.work, submitted, later, Nat.add_zero, due, ← withdrawn]
  exact congrArg _ (if_pos reached).symm

/-- If work is due, the next work is, and no time goes by. -/
theorem Orderly.due_runNext? (waiting : 0 < engine.due) : ∃ later,
    engine.runNext? = some later ∧ later.timetable.now = engine.timetable.now ∧
      later.due + 1 = engine.due := by
  obtain ⟨first, listed, reached⟩ :
      ∃ timer ∈ engine.timetable.timers, timer.deadline ≤ engine.timetable.now := by
    by_contra none
    refine waiting.ne' (List.sum_eq_zero fun amount listed => ?_)
    obtain ⟨timer, member, rfl⟩ := List.mem_map.mp listed
    exact if_neg fun reached => none ⟨timer, member, reached⟩
  cases ran : engine.runNext? with
  | none =>
      have nothing := Timetable.runNext?_eq_none_iff.mp (Option.map_eq_none_iff.mp ran)
      rw [nothing] at listed
      exact absurd listed List.not_mem_nil
  | some later =>
      obtain ⟨timer, member, least, rfl⟩ := exists_of_runNext? ran
      have deadline := (least first listed).trans reached
      have still : (engine.idleUntil timer.deadline).timetable.now = engine.timetable.now :=
        max_eq_left deadline
      have same : (engine.idleUntil timer.deadline).due = engine.due := by
        rw [due, still]
        rfl
      obtain ⟨now, less⟩ := (orderly.idleUntil least).due_work sound ticks member
        (deadline.trans still.ge)
      exact ⟨_, rfl, now.trans still, less.trans same⟩

end Due

end Engine

end LoadAtlas
