import LoadAtlas.Proofs.Engine.Orderly

/-!
# Requests that wait for their expiry

The requests that a timetable holds are those of the closed intervals whose expiry it waits for.
Only a rotation adds to them, and only an expiry takes them away.
-/

namespace LoadAtlas

def ClosedInterval.totalOf (closed : ClosedInterval) (entity : String) : Nat :=
  if closed.entity = entity then closed.requests.total else 0

/-- The requests of an entity that a duty will let expire. -/
def Duty.held (entity : String) : Duty → Nat
  | .expire closed => closed.totalOf entity
  | .rotate | .sweep _ => 0

namespace Duty

variable {timetable : Timetable Duty}

/-- The requests of an entity that are closed and expire at one of some times. -/
def heldIn (timetable : Timetable Duty) (times : Nat → Bool) (entity : String) : Nat :=
  timetable.weigh fun deadline duty => if times deadline then duty.held entity else 0

theorem heldIn_congr {first second : Nat → Bool}
    (same : ∀ timer ∈ timetable.timers, first timer.deadline = second timer.deadline)
    (entity : String) : heldIn timetable first entity = heldIn timetable second entity := by
  refine congrArg List.sum (List.map_congr_left fun timer member => ?_)
  simp only [same timer member]

theorem heldIn_eq_zero {times : Nat → Bool}
    (elapsed : ∀ timer ∈ timetable.timers, ∀ closed, timer.action = .expire closed →
      times timer.deadline = false) (entity : String) : heldIn timetable times entity = 0 := by
  refine List.sum_eq_zero fun amount listed => ?_
  obtain ⟨timer, member, rfl⟩ := List.mem_map.mp listed
  cases duty : timer.action with
  | rotate => simp [held]
  | expire closed => simp [elapsed timer member closed duty]
  | sweep other => simp [held]

theorem heldIn_withdraw (numbered : timetable.Numbered) {timer : Timer Duty}
    (member : timer ∈ timetable.timers) (times : Nat → Bool) (entity : String) :
    heldIn (timetable.withdraw timer) times entity +
        (if times timer.deadline then timer.action.held entity else 0) =
      heldIn timetable times entity :=
  numbered.weigh_withdraw member _

/-- Rotations and sweeps hold no requests. -/
theorem heldIn_submitAll_of_idle (going : timetable.stopped = false)
    {submissions : List (Timetable.Submission Duty)}
    (idle : ∀ submission ∈ submissions, ∀ entity, submission.action.held entity = 0)
    (times : Nat → Bool) (entity : String) :
    heldIn (timetable.submitAll submissions) times entity = heldIn timetable times entity := by
  rw [heldIn, Timetable.weigh_submitAll going]
  refine Nat.add_eq_left.mpr (List.sum_eq_zero fun amount listed => ?_)
  obtain ⟨submission, member, rfl⟩ := List.mem_map.mp listed
  rw [idle submission member entity, ite_self]

theorem heldIn_adopt {engine : Engine} (going : engine.timetable.stopped = false)
    (tracker : Tracker) (times : Nat → Bool) (entity : String) :
    heldIn (engine.adopt tracker).timetable times entity =
      heldIn engine.timetable times entity := by
  rw [Engine.adopt_eq_submitAll]
  refine heldIn_submitAll_of_idle going (fun submission listed entity => ?_) times entity
  obtain ⟨newcomer, _, rfl⟩ := List.mem_map.mp listed
  rfl

/-- What a rotation closes is held until one retention later. -/
theorem heldIn_submitAll_expiries (going : timetable.stopped = false) (tracker : Tracker)
    (times : Nat → Bool) (entity : String) :
    heldIn (timetable.submitAll (Engine.expiries tracker)) times entity =
      heldIn timetable times entity +
        if times (timetable.now +
            tracker.atlas.config.retention.toNat * timetable.resolution) then
          (tracker.counter entity).interval.total
        else 0 := by
  rw [heldIn, Timetable.weigh_submitAll going, Engine.expiries, List.map_map]
  refine congrArg (_ + ·) ?_
  by_cases counts : times (timetable.now +
      tracker.atlas.config.retention.toNat * timetable.resolution) = true
  · simp only [Function.comp_def, counts, ↓reduceIte]
    exact tracker.sum_rotate entity Tally.total rfl fun other idle => by
      simpa [Tally.isEmpty] using idle
  · simp [Function.comp_def, counts]

end Duty

end LoadAtlas
