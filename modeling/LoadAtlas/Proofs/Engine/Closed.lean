import LoadAtlas.Engine.Service
import LoadAtlas.Proofs.Engine.Orderly

/-!
# Closed engines

Closing an engine stops its timetable, and a stopped timetable takes nothing.  So whoever uses the
tracker or the atlas of a closed engine changes these alone: the sweeps of new entities and the
expiries of what a rotation closes are dropped on the spot.  An operation does not even get so far.
It is refused, and the engine stays as it is.

Nothing runs unless it was called for, then.  Windows gain what is recorded and never lose it, and
every interval that is closed waits for good.
-/

namespace LoadAtlas

namespace Engine

variable {engine : Engine}

/-- An engine that was closed: its timetable is empty and stays so. -/
structure Closed (engine : Engine) : Prop where
  isClosed : engine.closed = true
  stopped : engine.timetable.stopped = true
  nothing : engine.timetable.timers = []

/-- The engine as it is when it has been closed. -/
def shut (engine : Engine) : Engine :=
  { engine with closed := true, timetable := engine.timetable.stop }

theorem closed_shut (engine : Engine) : engine.shut.Closed :=
  ⟨rfl, rfl, rfl⟩

/-! ## Operations -/

theorem ensureOpen_of_closed (closed : engine.closed = true) :
    engine.ensureOpen = .error .engineClosed := by
  rw [ensureOpen, isClosed, closed]
  rfl

/-- An engine that is open can be closed. -/
theorem operate_close (opened : engine.closed = false) :
    engine.operate .close = (engine.shut, .done) := by
  rw [operate, attempt, close, ensureOpen_of_open opened]
  rfl

/-- Every operation asks whether the engine is open before it does anything. -/
theorem operate_of_closed (closed : engine.closed = true) (operation : Operation) :
    engine.operate operation = (engine, .refused .engineClosed) := by
  have refused := ensureOpen_of_closed closed
  have attempted : engine.attempt operation = .error .engineClosed := by
    cases operation <;>
      simp [attempt, record, load, centroids?, weightedCentroids, distribution, breakdown?,
        setOverride, clearOverride, indexStats, loadStats, close, refused, bind, Except.bind]
  rw [operate, attempted]

/-- Only a close closes an engine. -/
theorem closed_operate {operation : Operation} (different : operation ≠ .close) :
    (engine.operate operation).1.closed = engine.closed := by
  cases known : engine.closed with
  | true => rw [operate_of_closed known, known]
  | false =>
      have granted := ensureOpen_of_open known
      cases operation with
      | close => exact absurd rfl different
      | record entity location =>
          rw [operate, attempt, record, granted]
          cases engine.tracker.record entity location <;> exact known
      | _ =>
          simp [operate, attempt, load, centroids?, weightedCentroids, distribution, breakdown?,
            setOverride, clearOverride, indexStats, loadStats, granted, adoptAtlas, adopt, known,
            bind, Except.bind, pure, Except.pure]

/-! ## Direct calls and work -/

/-- What a direct call makes of a tracker, whatever becomes of the submissions. -/
def DirectCall.effect (tracker : Tracker) : DirectCall → Tracker
  | .record entity location =>
      match tracker.record entity location with
      | .ok later => later
      | .error _ => tracker
  | .rotate => tracker.rotate.1
  | .atlas request => { tracker with atlas := (tracker.atlas.serve request).1 }
  | .startRotation | .load _ | .breakdown _ | .entities | .stats => tracker

/-- Whether a direct call is a request of an entity that was recorded, by what it returned. -/
def DirectCall.records (entity : String) : DirectCall → Result → Bool
  | .record name _, .done => name == entity
  | _, _ => false

/-- A direct call adds to a window what it records, and takes nothing away. -/
theorem load_effect (engine : Engine) (call : DirectCall) (entity : String) :
    (call.effect engine.tracker).load entity =
      engine.tracker.load entity + if call.records entity (engine.direct call).2 then 1 else 0 := by
  cases call with
  | record name location =>
      rw [DirectCall.effect, direct]
      cases recorded : engine.tracker.record name location with
      | error fault => rfl
      | ok tracker =>
          obtain ⟨address, _, rfl⟩ := Tracker.record_eq_ok_iff.mp recorded
          have charted : ((engine.tracker.count name address).chart name address).load entity =
              (engine.tracker.count name address).load entity := rfl
          rw [charted, Tracker.load_count, DirectCall.records]
          by_cases same : name = entity <;> simp [same]
  | rotate => exact engine.tracker.load_rotate entity
  | _ => rfl

/-- No direct call lets an interval expire. -/
theorem pendingExpirations_le_effect (tracker : Tracker) (call : DirectCall) :
    tracker.pendingExpirations ≤ (call.effect tracker).pendingExpirations := by
  cases call with
  | record entity location =>
      rw [DirectCall.effect]
      cases recorded : tracker.record entity location with
      | error fault => exact le_rfl
      | ok later =>
          obtain ⟨address, _, rfl⟩ := Tracker.record_eq_ok_iff.mp recorded
          exact le_rfl
  | rotate => exact Nat.le_add_right _ _
  | _ => exact le_rfl

theorem closed_direct (call : DirectCall) : (engine.direct call).1.closed = engine.closed := by
  cases call with
  | record entity location =>
      rw [direct]
      split <;> rfl
  | _ => rfl

theorem closed_runNext? {later : Engine} (ran : engine.runNext? = some later) :
    later.closed = engine.closed := by
  obtain ⟨_, _, rfl⟩ := Option.map_eq_some_iff.mp ran
  rfl

namespace Closed

variable (closed : engine.Closed)

include closed

theorem update (tracker : Tracker) : { engine with tracker }.Closed :=
  ⟨closed.isClosed, closed.stopped, closed.nothing⟩

theorem adopt (tracker : Tracker) : engine.adopt tracker = { engine with tracker } := by
  rw [adopt_eq_submitAll, Timetable.submitAll_of_stopped closed.stopped]

theorem rotate : engine.rotate.1 = { engine with tracker := engine.tracker.rotate.1 } := by
  rw [rotate_eq_submitAll, Timetable.submitAll_of_stopped closed.stopped]

/-- A direct call changes the tracker and nothing else. -/
theorem direct (call : DirectCall) :
    (engine.direct call).1 = { engine with tracker := call.effect engine.tracker } := by
  cases call with
  | record entity location =>
      rw [Engine.direct, DirectCall.effect]
      cases engine.tracker.record entity location with
      | ok tracker => exact closed.adopt tracker
      | error fault => rfl
  | rotate => exact closed.rotate
  | startRotation =>
      exact congrArg (fun timetable => { engine with timetable }) (if_pos closed.stopped)
  | atlas request => exact closed.adopt _
  | _ => rfl

theorem runNext? : engine.runNext? = none :=
  Option.map_eq_none_iff.mpr (Timetable.runNext?_eq_none_iff.mpr closed.nothing)

theorem idleUntil (time : Nat) : (engine.idleUntil time).Closed :=
  ⟨closed.isClosed, closed.stopped, closed.nothing⟩

end Closed

end Engine

end LoadAtlas
