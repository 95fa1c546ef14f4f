import LoadAtlas.Engine.Worker
import LoadAtlas.Proofs.Engine.Timetable
import Mathlib.Data.List.Nodup

/-!
# What a worker does with the timers of a timetable

Whatever is submitted before the timetable is shut down has a number of its own, and afterwards it
waits, was begun or was dropped.  A worker begins a timer only when no action runs, the timetable
was not shut down, and the time of the timer has come; and then it begins the one that is before
all others that wait.  So of two timers that wait together the later one is begun only behind the
earlier one, whatever is submitted meanwhile.  What is submitted after the timetable was shut down
leaves no trace, and a worker that has left leaves nothing behind that waits.
-/

namespace LoadAtlas

/-- The greater of two timers is the one that is before the other. -/
theorem Timer.urgency_eq_gt_iff {Action : Type} {first second : Timer Action} :
    first.urgency second = .gt ↔ first.before second = true := by
  rw [Timer.before_iff, Timer.urgency, Ordering.then_eq_gt, Nat.compare_eq_gt,
    Nat.compare_eq_eq, Nat.compare_eq_gt]
  omega

namespace Timetable

variable {Action State : Type} {timetable : Timetable Action} {timer : Timer Action}

/-- Of all timers that wait a timer has the least deadline, and the least number among those with
this deadline. -/
structure Foremost (timetable : Timetable Action) (timer : Timer Action) : Prop where
  waits : timer ∈ timetable.timers
  least : ∀ other ∈ timetable.timers, other ≠ timer → timer.deadline < other.deadline ∨
    timer.deadline = other.deadline ∧ timer.number < other.number
  greatest : ∀ other ∈ timetable.timers, other ≠ timer → timer.urgency other = .gt

theorem Numbered.eq_of_number_eq (numbered : timetable.Numbered) {first second : Timer Action}
    (one : first ∈ timetable.timers) (other : second ∈ timetable.timers)
    (same : first.number = second.number) : first = second :=
  List.inj_on_of_nodup_map numbered.nodup one other same

theorem Numbered.next?_eq_some_iff (numbered : timetable.Numbered) :
    timetable.next? = some timer ↔ timetable.Foremost timer := by
  constructor
  · intro next
    have waits : timer ∈ timetable.timers := mem_of_earliest? next
    have least (other : Timer Action) (member : other ∈ timetable.timers)
        (different : other ≠ timer) : timer.deadline < other.deadline ∨
          timer.deadline = other.deadline ∧ timer.number < other.number := by
      have notSooner := not_before_of_earliest? next other member
      have apart : other.number ≠ timer.number := fun same =>
        different (numbered.eq_of_number_eq member waits same)
      rw [Timer.before_iff] at notSooner
      omega
    exact ⟨waits, least, fun other member different =>
      Timer.urgency_eq_gt_iff.mpr (Timer.before_iff.mpr (least other member different))⟩
  · intro foremost
    cases next : timetable.next? with
    | none =>
        have empty := earliest?_eq_none_iff.mp next
        exact absurd foremost.waits (by simp [empty])
    | some other =>
        by_contra different
        have least := foremost.least other (mem_of_earliest? next)
          fun same => different (congrArg some same)
        exact not_before_of_earliest? next timer foremost.waits (Timer.before_iff.mpr least)

end Timetable

namespace Worker

variable {Action : Type} {worker : Worker Action} {timer first second : Timer Action}

/-- The timers of all submissions before the first shutdown, numbered in turn. -/
def requested (resolution now number : Nat) : List (Step Action) → List (Timer Action)
  | [] => []
  | .submit delay action period :: steps =>
      ⟨now + delay * resolution, number, action, period⟩ ::
        requested resolution now (number + 1) steps
  | .advance time :: steps => requested resolution (max now time) number steps
  | .shutDown :: _ => []
  | .look :: steps => requested resolution now number steps
  | .finish :: steps => requested resolution now number steps

theorem map_number_requested (resolution now number : Nat) (steps : List (Step Action)) :
    (requested resolution now number steps).map Timer.number =
      List.range' number (requested resolution now number steps).length := by
  induction steps generalizing now number with
  | nil => rfl
  | cons step steps induction =>
      cases step with
      | submit delay action period =>
          simp only [requested, List.map_cons, List.length_cons, List.range'_succ, induction]
      | advance time => exact induction _ _
      | shutDown => rfl
      | look => exact induction _ _
      | finish => exact induction _ _

/-! ## What the end of an action leaves alone -/

section Finish

variable (worker : Worker Action)

@[simp] theorem timetable_finish : worker.finish.timetable = worker.timetable := by
  rw [finish]
  split <;> rfl

@[simp] theorem begun_finish : worker.finish.begun = worker.begun := by
  rw [finish]
  split <;> rfl

@[simp] theorem dropped_finish : worker.finish.dropped = worker.dropped := by
  rw [finish]
  split <;> rfl

end Finish

/-! ## What a look does -/

/-- A look begins a timer. -/
structure Begins (worker : Worker Action) (timer : Timer Action) : Prop where
  idle : worker.running = none
  going : worker.timetable.stopped = false
  foremost : worker.timetable.Foremost timer
  due : timer.deadline ≤ worker.timetable.now

/-- All that a look may do. -/
inductive Looked (worker : Worker Action) : Worker Action → Prop
  | waits (still : ∀ timer, ¬ worker.Begins timer)
      (remains : worker.timetable.stopped = true → worker.gone = true ∨ worker.running.isSome) :
      Looked worker worker
  | leaves (present : worker.gone = false) (idle : worker.running = none)
      (stopped : worker.timetable.stopped = true) : Looked worker worker.leave
  | begins (timer : Timer Action) (present : worker.gone = false) (begins : worker.Begins timer) :
      Looked worker
        { worker with
          timetable := worker.timetable.withdraw timer
          running := some timer
          begun := worker.begun ++ [timer] }

/-! ## What holds of a worker at every moment -/

/-- The timers have numbers of their own, every action that was begun has ended or runs, and
a worker leaves, and drops what waits, only when the timetable is shut down. -/
structure Sane (worker : Worker Action) : Prop where
  numbered : worker.timetable.Numbered
  inTurn : worker.begun = worker.ended ++ worker.running.toList
  present : worker.gone = false → worker.dropped = []
  left : worker.gone = true → worker.running = none ∧ worker.timetable.stopped = true ∧
    worker.timetable.timers = []

theorem Sane.looked (sane : worker.Sane) : worker.Looked worker.look := by
  rw [look]
  split
  next away =>
    rw [Bool.or_eq_true] at away
    refine .waits (fun timer begins => ?_) fun _ => away
    rcases away with gone | busy
    · have stopped := (sane.left gone).2.1
      rw [begins.going] at stopped
      cases stopped
    · simp [begins.idle] at busy
  next here =>
    simp only [Bool.or_eq_true, not_or, Bool.not_eq_true, Option.isSome_eq_false_iff,
      Option.isNone_iff_eq_none] at here
    obtain ⟨present, idle⟩ := here
    split
    next stopped => exact .leaves present idle stopped
    next going =>
      rw [Bool.not_eq_true] at going
      have never : worker.timetable.stopped = true → worker.gone = true ∨ worker.running.isSome :=
        fun stopped => absurd (going.symm.trans stopped) Bool.false_ne_true
      rw [beginNext]
      split
      next next =>
        refine .waits (fun timer begins => ?_) never
        rw [sane.numbered.next?_eq_some_iff.mpr begins.foremost] at next
        cases next
      next timer next =>
        split
        next early =>
          refine .waits (fun other begins => ?_) never
          rw [sane.numbered.next?_eq_some_iff.mpr begins.foremost] at next
          obtain rfl := Option.some.inj next
          exact early.not_ge begins.due
        next due =>
          exact .begins timer present
            ⟨idle, going, sane.numbered.next?_eq_some_iff.mp next, Nat.le_of_not_lt due⟩

theorem sane_start (resolution : Nat) : (start resolution : Worker Action).Sane where
  numbered := ⟨List.nodup_nil, by simp [start]⟩
  inTurn := rfl
  present _ := rfl
  left gone := absurd gone Bool.false_ne_true

theorem Looked.sane {after : Worker Action} (looked : worker.Looked after) (sane : worker.Sane) :
    after.Sane := by
  cases looked with
  | waits => exact sane
  | leaves present idle stopped =>
      exact ⟨⟨List.nodup_nil, by simp [leave, Timetable.stop]⟩, sane.inTurn,
        fun still => absurd still.symm Bool.false_ne_true, fun _ => ⟨idle, rfl, rfl⟩⟩
  | begins timer present begins =>
      refine ⟨sane.numbered.withdraw timer, ?_, sane.present, fun gone => ?_⟩
      · simp [sane.inTurn, begins.idle]
      · exact absurd (present.symm.trans gone) Bool.false_ne_true

theorem Sane.finish (sane : worker.Sane) : worker.finish.Sane := by
  rw [Worker.finish]
  cases busy : worker.running with
  | none => exact sane
  | some timer =>
      refine ⟨sane.numbered, by simp [sane.inTurn, busy], sane.present, fun gone => ?_⟩
      exact ⟨rfl, (sane.left gone).2⟩

theorem Sane.step (sane : worker.Sane) (step : Step Action) : (worker.step step).Sane := by
  cases step with
  | submit delay action period =>
      refine ⟨sane.numbered.submit delay action period, sane.inTurn, sane.present, fun gone => ?_⟩
      obtain ⟨idle, stopped, nothing⟩ := sane.left gone
      simp only [Worker.step, Timetable.submit, stopped, ↓reduceIte]
      exact ⟨idle, trivial, nothing⟩
  | advance time =>
      exact ⟨⟨sane.numbered.nodup, sane.numbered.given⟩, sane.inTurn, sane.present, sane.left⟩
  | shutDown =>
      exact ⟨⟨sane.numbered.nodup, sane.numbered.given⟩, sane.inTurn, sane.present,
        fun gone => ⟨(sane.left gone).1, rfl, (sane.left gone).2.2⟩⟩
  | look => exact sane.looked.sane sane
  | finish => exact sane.finish

theorem Sane.run (sane : worker.Sane) (steps : List (Step Action)) : (worker.run steps).Sane :=
  List.foldlRecOn (motive := Sane) steps _ sane fun _ known step _ => known.step step

/-! ## Where the timers are -/

/-- All timers so far: those that wait, those that were begun and those that were dropped. -/
def timers (worker : Worker Action) : List (Timer Action) :=
  worker.timetable.timers ++ worker.begun ++ worker.dropped

/-- The timers that are still to be asked for. -/
def awaited (worker : Worker Action) (steps : List (Step Action)) : List (Timer Action) :=
  if worker.timetable.stopped then []
  else requested worker.timetable.resolution worker.timetable.now worker.timetable.nextNumber steps

/-- A look moves timers, and takes none away. -/
theorem Looked.perm {after : Worker Action} (looked : worker.Looked after) (sane : worker.Sane) :
    after.timers.Perm worker.timers := by
  cases looked with
  | waits => exact .rfl
  | leaves present idle stopped =>
      simp only [timers, leave, Timetable.stop, List.nil_append, sane.present present,
        List.append_nil]
      exact List.perm_append_comm
  | begins timer present begins =>
      have moved := sane.numbered.perm_withdraw begins.foremost.waits
      simp only [timers, List.append_assoc, List.singleton_append]
      refine .trans ?_ (moved.symm.append_right (worker.begun ++ worker.dropped))
      simp only [← List.append_assoc]
      exact (List.perm_middle).trans (by simp)

theorem Looked.awaited_eq {after : Worker Action} (looked : worker.Looked after)
    (steps : List (Step Action)) : after.awaited steps = worker.awaited steps := by
  cases looked with
  | waits => rfl
  | leaves present idle stopped => simp [awaited, leave, Timetable.stop, stopped]
  | begins timer present begins => rfl

/-- Each step takes its own share of what is still to be asked for. -/
theorem Sane.perm_step (sane : worker.Sane) (step : Step Action) (steps : List (Step Action)) :
    ((worker.step step).timers ++ (worker.step step).awaited steps).Perm
      (worker.timers ++ worker.awaited (step :: steps)) := by
  cases step with
  | submit delay action period =>
      cases stopped : worker.timetable.stopped with
      | true => simp [Worker.step, timers, awaited, Timetable.submit, stopped]
      | false =>
          simp only [Worker.step, timers, awaited, Timetable.submit, stopped, Bool.false_eq_true,
            ↓reduceIte, requested, List.append_assoc]
          refine List.Perm.append_left _ ?_
          rw [List.singleton_append]
          simpa only [← List.append_assoc] using List.perm_middle.symm
  | advance time => exact .rfl
  | shutDown => simp [Worker.step, timers, awaited, Timetable.shut, requested]
  | look =>
      have asked : worker.look.awaited steps = worker.awaited (.look :: steps) :=
        sane.looked.awaited_eq steps
      exact asked ▸ (sane.looked.perm sane).append_right _
  | finish =>
      simp only [Worker.step, timers, awaited, timetable_finish, begun_finish, dropped_finish]
      exact .rfl

/-- Whatever was asked for waits, was begun or was dropped. -/
theorem Sane.perm_run (sane : worker.Sane) (steps : List (Step Action)) :
    (worker.run steps).timers.Perm (worker.timers ++ worker.awaited steps) := by
  induction steps generalizing worker with
  | nil =>
      have nothing : worker.awaited [] = [] := by simp [awaited, requested]
      rw [nothing, List.append_nil]
      exact .rfl
  | cons step steps induction =>
      exact (induction (sane.step step)).trans (sane.perm_step step steps)

theorem perm_run_start (resolution : Nat) (steps : List (Step Action)) :
    ((start resolution).run steps).timers.Perm (requested resolution 0 0 steps) :=
  (sane_start resolution).perm_run steps

theorem nodup_timers_run_start (resolution : Nat) (steps : List (Step Action)) :
    (((start resolution).run steps).timers.map Timer.number).Nodup := by
  rw [((perm_run_start resolution steps).map Timer.number).nodup_iff, map_number_requested]
  exact List.nodup_range'

/-! ## When a timer is begun -/

theorem Looked.begun_eq_iff {after : Worker Action} (looked : worker.Looked after)
    (sane : worker.Sane) : after.begun = worker.begun ++ [timer] ↔ worker.Begins timer := by
  cases looked with
  | waits still => simp [still timer]
  | leaves present idle stopped =>
      have never : ¬ worker.Begins timer := fun begins =>
        absurd (begins.going.symm.trans stopped) Bool.false_ne_true
      simp [leave, never]
  | begins other present begins =>
      rw [List.append_cancel_left_eq, List.singleton_inj]
      refine ⟨fun same => same ▸ begins, fun others => Option.some.inj ?_⟩
      rw [← sane.numbered.next?_eq_some_iff.mpr begins.foremost,
        ← sane.numbered.next?_eq_some_iff.mpr others.foremost]

theorem Looked.begun_cases {after : Worker Action} (looked : worker.Looked after) :
    after.begun = worker.begun ∨ ∃ timer, after.begun = worker.begun ++ [timer] := by
  cases looked with
  | waits => exact .inl rfl
  | leaves => exact .inl rfl
  | begins timer => exact .inr ⟨timer, rfl⟩

/-- Nothing but a look begins a timer. -/
theorem Sane.begun_step (sane : worker.Sane) (step : Step Action) :
    (worker.step step).begun = worker.begun ∨
      step = .look ∧ ∃ timer, (worker.step step).begun = worker.begun ++ [timer] := by
  cases step with
  | submit => exact .inl rfl
  | advance => exact .inl rfl
  | shutDown => exact .inl rfl
  | look => exact sane.looked.begun_cases.imp_right fun begins => ⟨rfl, begins⟩
  | finish => exact .inl (begun_finish worker)

/-! ## Shutting down -/

theorem Looked.stopped_eq {after : Worker Action} (looked : worker.Looked after) :
    after.timetable.stopped = worker.timetable.stopped := by
  cases looked with
  | waits => rfl
  | leaves present idle stopped => exact stopped.symm
  | begins => rfl

theorem Sane.stopped_step (sane : worker.Sane) (step : Step Action) :
    (worker.step step).timetable.stopped = true ↔
      worker.timetable.stopped = true ∨ step = .shutDown := by
  cases step with
  | submit => simp only [Worker.step, Timetable.submit]; split <;> simp
  | advance => simp [Worker.step, Timetable.advance]
  | shutDown => simp [Worker.step, Timetable.shut]
  | look => simp [Worker.step, sane.looked.stopped_eq]
  | finish => simp [Worker.step]

theorem Sane.stopped_run (sane : worker.Sane) (steps : List (Step Action)) :
    (worker.run steps).timetable.stopped = true ↔
      worker.timetable.stopped = true ∨ .shutDown ∈ steps := by
  induction steps generalizing worker with
  | nil => simp [Worker.run]
  | cons step steps induction =>
      refine (induction (sane.step step)).trans ?_
      rw [sane.stopped_step, List.mem_cons, or_assoc, eq_comm (a := step)]

/-! ## In which order timers are begun -/

/-- A timer is not begun before another one. -/
structure Behind (first second : Timer Action) (worker : Worker Action) : Prop where
  given : second.number < worker.timetable.nextNumber
  waits : second ∈ worker.timetable.timers →
    first ∈ worker.timetable.timers ∨ first ∈ worker.begun
  begun : second ∈ worker.begun → [first, second].Sublist worker.begun

theorem Behind.looked (behind : Behind first second worker) (sane : worker.Sane)
    (before : first.before second = true) {after : Worker Action}
    (looked : worker.Looked after) : Behind first second after := by
  cases looked with
  | waits => exact behind
  | leaves => exact ⟨behind.given, fun waits => absurd waits List.not_mem_nil, behind.begun⟩
  | begins timer present begins =>
      refine ⟨behind.given, fun waits => ?_, fun begun => ?_⟩
      · have waited := behind.waits (List.mem_of_mem_filter waits)
        rcases waited with still | already
        · by_cases same : first = timer
          · exact .inr (by simp [same])
          · exact .inl (sane.numbered.mem_withdraw begins.foremost.waits still same)
        · exact .inr (List.mem_append_left _ already)
      · rcases List.mem_append.mp begun with already | now
        · exact (behind.begun already).trans (List.sublist_append_left _ _)
        · obtain rfl := List.mem_singleton.mp now
          rcases behind.waits begins.foremost.waits with still | already
          · -- the second one is the foremost, so the first one does not wait any more
            have next := sane.numbered.next?_eq_some_iff.mpr begins.foremost
            exact absurd before (Timetable.not_before_of_earliest? next first still)
          · exact (List.singleton_sublist.mpr already).append (List.Sublist.refl [second])

theorem Behind.step (behind : Behind first second worker) (sane : worker.Sane)
    (before : first.before second = true) (step : Step Action) :
    Behind first second (worker.step step) := by
  cases step with
  | submit delay action period =>
      cases stopped : worker.timetable.stopped with
      | true => simpa [Worker.step, Timetable.submit, stopped] using behind
      | false =>
          simp only [Worker.step, Timetable.submit, stopped, Bool.false_eq_true, ↓reduceIte]
          refine ⟨behind.given.trans (Nat.lt_succ_self _), fun waits => ?_, behind.begun⟩
          rcases List.mem_append.mp waits with waited | new
          · exact (behind.waits waited).imp_left (List.mem_append_left _)
          · have given := behind.given
            rw [List.mem_singleton.mp new] at given
            exact absurd given (Nat.lt_irrefl _)
  | advance => exact ⟨behind.given, behind.waits, behind.begun⟩
  | shutDown => exact ⟨behind.given, behind.waits, behind.begun⟩
  | look => exact behind.looked sane before sane.looked
  | finish =>
      exact ⟨by simpa [Worker.step] using behind.given, by simpa [Worker.step] using behind.waits,
        by simpa [Worker.step] using behind.begun⟩

theorem Behind.run (behind : Behind first second worker) (sane : worker.Sane)
    (before : first.before second = true) (steps : List (Step Action)) :
    Behind first second (worker.run steps) := by
  induction steps generalizing worker with
  | nil => exact behind
  | cons step steps induction => exact induction (behind.step sane before step) (sane.step step)

/-- Of two timers that wait neither was begun. -/
theorem behind_of_waiting (resolution : Nat) (steps : List (Step Action))
    (one : first ∈ ((start resolution).run steps).timetable.timers)
    (other : second ∈ ((start resolution).run steps).timetable.timers) :
    Behind first second ((start resolution).run steps) := by
  have sane : ((start resolution : Worker Action).run steps).Sane :=
    (sane_start resolution).run steps
  refine ⟨sane.numbered.given second other, fun _ => .inl one, fun begun => ?_⟩
  have distinct := (nodup_timers_run_start resolution steps).of_map
  rw [timers, List.append_assoc] at distinct
  exact absurd (List.mem_append_left _ begun) (List.disjoint_of_nodup_append distinct other)

/-! ## All that can be told of a worker -/

/-- What holds of a worker after its steps, and what any further step does. -/
structure Dispatched (resolution : Nat) (steps : List (Step Action)) (worker : Worker Action) :
    Prop where
  /-- Whatever was submitted in time waits, was begun or was dropped, and nothing else. -/
  accounted : (worker.timetable.timers ++ worker.begun ++ worker.dropped).Perm
    (requested resolution 0 0 steps)
  /-- It has a number of its own, so that it does so just once. -/
  numbered : (requested resolution 0 0 steps).map Timer.number =
    List.range (requested resolution 0 0 steps).length
  /-- One action runs at a time, and each that was begun ends before the next one. -/
  inTurn : worker.begun = worker.ended ++ worker.running.toList
  /-- A look begins the foremost timer, when its time has come and no action runs. -/
  begins : ∀ timer, (worker.step .look).begun = worker.begun ++ [timer] ↔ worker.Begins timer
  /-- No step begins more than that. -/
  single : ∀ step, (worker.step step).begun = worker.begun ∨
    step = .look ∧ ∃ timer, (worker.step step).begun = worker.begun ++ [timer]
  /-- Timers that once waited together are begun by deadlines, and for one deadline in the order
  of their submissions. -/
  inOrder : ∀ early late, steps = early ++ late →
    ∀ first ∈ ((start resolution).run early).timetable.timers,
    ∀ second ∈ ((start resolution).run early).timetable.timers,
      first.before second = true → second ∈ worker.begun →
        [first, second].Sublist worker.begun
  stopped : worker.timetable.stopped = true ↔ .shutDown ∈ steps
  /-- A timetable that was shut down takes nothing. -/
  refused : worker.timetable.stopped = true → ∀ delay action period,
    worker.step (.submit delay action period) = worker
  /-- Nothing is dropped before the worker leaves. -/
  present : worker.gone = false → worker.dropped = []
  /-- The worker leaves at its first look after the action that ran at the shutdown, if any. -/
  leaves : worker.gone = false → worker.timetable.stopped = true → worker.running = none →
    (worker.step .look).gone = true ∧ (worker.step .look).dropped = worker.timetable.timers
  left : worker.gone = true → worker.running = none ∧ worker.timetable.stopped = true ∧
    worker.timetable.pending = 0

theorem dispatched_of_start (resolution : Nat) (steps : List (Step Action)) :
    Dispatched resolution steps ((start resolution).run steps) := by
  have sane : ((start resolution : Worker Action).run steps).Sane :=
    (sane_start resolution).run steps
  exact {
    accounted := perm_run_start resolution steps
    numbered := by rw [map_number_requested, List.range_eq_range']
    inTurn := sane.inTurn
    begins := fun timer => sane.looked.begun_eq_iff sane
    single := sane.begun_step
    inOrder := fun early late split first one second other before begun => by
      have behind := (behind_of_waiting resolution early one other).run
        ((sane_start resolution).run early) before late
      rw [split, run, List.foldl_append] at begun ⊢
      exact behind.begun begun
    stopped := (sane_start resolution).stopped_run steps |>.trans (by simp [start])
    refused := fun stopped delay action period => by
      simp only [step, Timetable.submit, stopped, ↓reduceIte]
    present := sane.present
    leaves := fun present stopped idle => by
      simp [step, look, present, stopped, idle, leave]
    left := fun gone => ⟨(sane.left gone).1, (sane.left gone).2.1,
      List.length_eq_zero_iff.mpr (sane.left gone).2.2⟩ }

/-- An action that runs may submit one that comes before those that wait already. -/
example : ((start 1 : Worker String).run
    [.submit 5 "first" none, .submit 9 "last" none, .submit 9 "never" none, .advance 6, .look,
      .submit 2 "between" none, .finish, .look, .advance 9, .look, .finish, .look, .shutDown,
      .submit 0 "late" none, .finish, .look]).ended.map Timer.action =
        ["first", "between", "last"] := rfl

/-! ## Waiting for the next timer and running it -/

def Step.ofSubmission (submission : Timetable.Submission Action) : Step Action :=
  .submit submission.delay submission.action submission.period

theorem run_map_ofSubmission (worker : Worker Action)
    (submissions : List (Timetable.Submission Action)) :
    worker.run (submissions.map .ofSubmission) =
      { worker with timetable := worker.timetable.submitAll submissions } := by
  induction submissions generalizing worker with
  | nil => rfl
  | cons submission submissions induction => exact induction _

theorem look_of_next? (present : worker.gone = false) (idle : worker.running = none)
    (going : worker.timetable.stopped = false) (next : worker.timetable.next? = some timer)
    (due : timer.deadline ≤ worker.timetable.now) :
    worker.look =
      { worker with
        timetable := worker.timetable.withdraw timer
        running := some timer
        begun := worker.begun ++ [timer] } := by
  rw [look, if_neg (by simp [present, idle]), if_neg (by simp [going]), beginNext]
  simp only [next]
  rw [if_neg due.not_gt]

/-- A worker that waits for the next timer and is left alone with it does to the timetable what
`Timetable.run` does. -/
theorem run_of_next? {State : Type} (perform : Action → State → Outcome State Action)
    (state : State) (next : worker.timetable.next? = some timer) (present : worker.gone = false)
    (idle : worker.running = none) (going : worker.timetable.stopped = false) :
    let outcome := perform timer.action state
    let submissions := outcome.submissions.map (fun submission =>
      ⟨submission.1, submission.2, none⟩) ++ Timetable.renewal timer outcome.again
    worker.run (.advance timer.deadline :: .look :: (submissions.map .ofSubmission ++ [.finish])) =
      { worker with
        timetable :=
          (Timetable.run perform timer (worker.timetable.advance timer.deadline) state).1
        begun := worker.begun ++ [timer]
        ended := worker.ended ++ [timer] } := by
  intro outcome submissions
  let reached := worker.timetable.advance timer.deadline
  let busy : Worker Action :=
    { worker with
      timetable := reached.withdraw timer
      running := some timer
      begun := worker.begun ++ [timer] }
  have begins : (worker.step (.advance timer.deadline)).look = busy :=
    look_of_next? present idle going next (Nat.le_max_right _ _)
  calc worker.run (.advance timer.deadline :: .look :: (submissions.map .ofSubmission ++ [.finish]))
      = (busy.run (submissions.map .ofSubmission)).finish := by
        rw [← begins, run, run, List.foldl_cons, List.foldl_cons, List.foldl_append]
        rfl
    _ = { busy with
          timetable := busy.timetable.submitAll submissions
          running := none
          ended := worker.ended ++ [timer] } := by
        rw [run_map_ofSubmission]
        rfl
    _ = _ := by
        simp only [busy, idle, Timetable.run, Timetable.settle_eq_submitAll]
        rfl

/-- A worker that is shut down while no action runs stops the timetable. -/
theorem run_shutDown_look (present : worker.gone = false) (idle : worker.running = none) :
    worker.run [.shutDown, .look] =
      { worker with
        timetable := worker.timetable.stop
        gone := true
        dropped := worker.timetable.timers } := by
  simp [run, step, look, Timetable.shut, present, idle, leave, Timetable.stop]

end Worker
end LoadAtlas
