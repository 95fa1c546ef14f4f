import LoadAtlas.Engine.Rota
import LoadAtlas.Proofs.Engine.Worker

/-!
# Regular tasks keep their distance

At every moment a task waits for its next run with just one timer, or runs, or has run and is about
to submit its next timer, or is over.  It is over if a run of it did not want another one, or if
the timetable was shut down and the timer of the task was dropped or not taken any more.  So its
runs never overlap, each is begun one period or more after the one before it has returned, and no
task is run twice as often as it was registered.
-/

namespace LoadAtlas

namespace RegularTask

variable {task : RegularTask} {now span : Nat} {again : Bool}

/-- When the last run has returned, or the task was registered if there was none. -/
def since (task : RegularTask) : Nat :=
  (task.past.getLast?.map Stint.finish).getD task.registered

/-- Every run so far wanted the task to be run again. -/
def Wanted (task : RegularTask) : Prop :=
  ∀ stint ∈ task.past, stint.again = true

/-- The runs of a task are as far apart as they have to be. -/
structure Spaced (span : Nat) (task : RegularTask) : Prop where
  ordered : ∀ stint ∈ task.past, stint.start ≤ stint.finish
  first : ∀ start, task.starts[0]? = some start → task.registered + span ≤ start
  next : ∀ (number : Nat) stint start, task.past[number]? = some stint →
    task.starts[number + 1]? = some start → stint.again = true ∧ stint.finish + span ≤ start

theorem starts_begin (rests : task.current = none) (now : Nat) :
    (task.begin now).starts = task.starts ++ [now] := by
  simp [starts, begin, rests]

/-- A run that returns has been begun before. -/
@[simp] theorem starts_finish (task : RegularTask) (now : Nat) (again : Bool) :
    (task.finish now again).starts = task.starts := by
  cases current : task.current <;> simp [starts, finish, current]

theorem length_starts (rests : task.current = none) : task.starts.length = task.past.length := by
  simp [starts, rests]

theorem spaced_of_no_run (span period registered : Nat) :
    Spaced span { period, registered } where
  ordered _ listed := absurd listed List.not_mem_nil
  first _ found := by simp [starts] at found
  next _ _ _ found := by simp at found

theorem Spaced.begin (spaced : task.Spaced span) (rests : task.current = none)
    (wanted : task.Wanted) (due : task.since + span ≤ now) : (task.begin now).Spaced span where
  ordered := spaced.ordered
  first start found := by
    rw [starts_begin rests, List.getElem?_append] at found
    split at found
    · exact spaced.first start found
    next none =>
      have noRun : task.past = [] := by
        rw [length_starts rests] at none
        exact List.length_eq_zero_iff.mp (by omega)
      obtain rfl : now = start := by simpa [length_starts rests, noRun] using found
      simpa [since, noRun, RegularTask.begin] using due
  next number stint start found later := by
    change task.past[number]? = some stint at found
    rw [starts_begin rests, List.getElem?_append] at later
    split at later
    · exact spaced.next number stint start found later
    next last =>
      have bound := (List.getElem?_eq_some_iff.mp found).1
      rw [length_starts rests] at last later
      have number_eq : number + 1 = task.past.length := by omega
      obtain rfl : now = start := by simpa [number_eq] using later
      have isLast : task.past.getLast? = some stint := by
        rw [List.getLast?_eq_getElem?, ← found]
        exact congrArg _ (by omega)
      refine ⟨wanted stint (List.mem_of_getElem? found), ?_⟩
      simpa [since, isLast] using due

theorem Spaced.finish (spaced : task.Spaced span) {start : Nat}
    (current : task.current = some start) (begun : start ≤ now) (again : Bool) :
    (task.finish now again).Spaced span := by
  have past : (task.finish now again).past = task.past ++ [⟨start, now, again⟩] := by
    simp [RegularTask.finish, current]
  refine ⟨?_, fun first found => ?_, fun number stint later found started => ?_⟩
  · rw [past, List.forall_mem_append, List.forall_mem_singleton]
    exact ⟨spaced.ordered, begun⟩
  · rw [starts_finish] at found
    have registered : (task.finish now again).registered = task.registered := by
      simp [RegularTask.finish, current]
    exact registered ▸ spaced.first first found
  · rw [starts_finish] at started
    rw [past, List.getElem?_append] at found
    split at found
    · exact spaced.next number stint later found started
    next last =>
      -- no run was begun after the one that has just returned
      have bound := (List.getElem?_eq_some_iff.mp started).1
      simp only [starts, current, List.length_append, List.length_map, Option.toList_some,
        List.length_singleton] at bound
      omega

/-- The run after so many others is begun so many periods after the registration. -/
theorem Spaced.late (spaced : task.Spaced span) {number start : Nat}
    (found : task.starts[number]? = some start) :
    task.registered + (number + 1) * span ≤ start := by
  induction number generalizing start with
  | zero => simpa using spaced.first start found
  | succ number induction =>
      have bound := (List.getElem?_eq_some_iff.mp found).1
      have before : number < task.past.length := by
        have most : task.current.toList.length ≤ 1 := Option.length_toList_le
        rw [starts, List.length_append, List.length_map] at bound
        omega
      obtain ⟨stint, returned⟩ : ∃ stint, task.past[number]? = some stint :=
        ⟨_, List.getElem?_eq_getElem before⟩
      have begun : task.starts[number]? = some stint.start := by
        rw [starts, List.getElem?_append_left (by simpa using before), List.getElem?_map, returned]
        rfl
      have early := induction begun
      have ordered := spaced.ordered stint (List.mem_of_getElem? returned)
      have rest := (spaced.next number stint start returned found).2
      rw [Nat.add_mul, Nat.one_mul]
      omega

end RegularTask

namespace Rota

variable {Action : Type} {rota : Rota Action} {number : Nat} {task : RegularTask}
  {timer : Timer (Chore Action)}

/-! ## Timers of a task -/

/-- Whether a timer is for a run of the task with the given number. -/
def isRunOf (number : Nat) (timer : Timer (Chore Action)) : Bool :=
  match timer.action with
  | .once _ => false
  | .run task => task == number

theorem isRunOf_iff : isRunOf number timer = true ↔ timer.action = .run number := by
  cases kind : timer.action <;> simp [isRunOf, kind]

/-- The timers of a task that wait. -/
def waiting (rota : Rota Action) (number : Nat) : List (Timer (Chore Action)) :=
  rota.worker.timetable.timers.filter (isRunOf number)

/-- The timer of a task whose job runs. -/
def running? (rota : Rota Action) (number : Nat) : Option (Timer (Chore Action)) :=
  rota.worker.running.filter (isRunOf number)

/-- The timers of a task that wait or whose job runs. -/
def timersOf (rota : Rota Action) (number : Nat) : List (Timer (Chore Action)) :=
  rota.waiting number ++ (rota.running? number).toList

/-- One period on the clock of a rota. -/
def span (rota : Rota Action) (task : RegularTask) : Nat :=
  task.period * rota.worker.timetable.resolution

/-! ## Where a task stands -/

/-- All that a task may be about. -/
inductive Stage (rota : Rota Action) (number : Nat) (task : RegularTask) : Prop
  /-- It waits for its next run, which comes one period or more after its last one. -/
  | waits (timer : Timer (Chore Action)) (timers : rota.waiting number = [timer])
      (idle : rota.running? number = none) (period : timer.period = some task.period)
      (due : task.since + rota.span task ≤ timer.deadline) (rests : task.current = none)
      (wanted : task.Wanted)
  | runs (timer : Timer (Chore Action)) (start : Nat) (timers : rota.waiting number = [])
      (busy : rota.running? number = some timer) (period : timer.period = some task.period)
      (current : task.current = some start) (begun : start ≤ rota.now)
      (going : rota.renewing = false) (wanted : task.Wanted)
  /-- It has run and its job is about to submit the next timer. -/
  | renews (timer : Timer (Chore Action)) (timers : rota.waiting number = [])
      (busy : rota.running? number = some timer) (period : timer.period = some task.period)
      (rests : task.current = none) (renewing : rota.renewing = true) (wanted : task.Wanted)
  | finished (timers : rota.waiting number = []) (idle : rota.running? number = none)
      (rests : task.current = none)
      (reason : task.Wanted → rota.worker.timetable.stopped = true)

/-- What holds of a task at every moment. -/
structure Standing (rota : Rota Action) (number : Nat) (task : RegularTask) : Prop where
  spaced : task.Spaced (rota.span task)
  past : task.since ≤ rota.now
  /-- Its runs are all its timers that were begun. -/
  recorded : task.starts.length = rota.worker.begun.countP (isRunOf number)
  stage : Stage rota number task

/-- A step that leaves alone what a task is about. -/
structure Leaves (number : Nat) (before after : Rota Action) : Prop where
  waiting : after.waiting number = before.waiting number
  running? : after.running? number = before.running? number
  renewing : before.running? number ≠ none → after.renewing = before.renewing
  stopped : before.worker.timetable.stopped = true → after.worker.timetable.stopped = true
  resolution : after.worker.timetable.resolution = before.worker.timetable.resolution
  now : before.now ≤ after.now
  begun : after.worker.begun.countP (isRunOf number) =
    before.worker.begun.countP (isRunOf number)

theorem Standing.of_leaves {after : Rota Action} (standing : Standing rota number task)
    (leaves : Leaves number rota after) : Standing after number task := by
  have span : after.span task = rota.span task := by rw [Rota.span, Rota.span, leaves.resolution]
  refine ⟨span ▸ standing.spaced, standing.past.trans leaves.now,
    standing.recorded.trans leaves.begun.symm, ?_⟩
  cases standing.stage with
  | waits timer timers idle period due rests wanted =>
      exact .waits timer (leaves.waiting.trans timers) (leaves.running?.trans idle) period
        (span ▸ due) rests wanted
  | runs timer start timers busy period current begun going wanted =>
      exact .runs timer start (leaves.waiting.trans timers) (leaves.running?.trans busy) period
        current (begun.trans leaves.now) ((leaves.renewing (by simp [busy])).trans going) wanted
  | renews timer timers busy period rests renewing wanted =>
      exact .renews timer (leaves.waiting.trans timers) (leaves.running?.trans busy) period rests
        ((leaves.renewing (by simp [busy])).trans renewing) wanted
  | finished timers idle rests reason =>
      exact .finished (leaves.waiting.trans timers) (leaves.running?.trans idle) rests
        fun wanted => leaves.stopped (reason wanted)

/-- Only tasks that were registered have timers, and had any before. -/
def Known (worker : Worker (Chore Action)) (count : Nat) : Prop :=
  ∀ timer ∈ worker.timetable.timers ++ worker.begun, ∀ number,
    timer.action = .run number → number < count

/-- What holds of a rota at every moment. -/
structure Sane (rota : Rota Action) : Prop where
  worker : rota.worker.Sane
  known : Known rota.worker rota.tasks.length
  /-- Only the job of a task submits a next timer. -/
  renewing : rota.renewing = true → ∃ timer number, rota.worker.running = some timer ∧
    timer.action = .run number
  standing : ∀ number task, rota.tasks[number]? = some task → Standing rota number task

theorem sane_start (resolution : Nat) : (start resolution : Rota Action).Sane where
  worker := Worker.sane_start resolution
  known _ listed := absurd listed List.not_mem_nil
  renewing renewing := absurd renewing Bool.false_ne_true
  standing _ _ found := by simp [start] at found

/-! ## Submissions -/

theorem timers_submit (timetable : Timetable Action) (delay : Nat) (action : Action)
    (period : Option Nat) : (timetable.submit delay action period).timers = timetable.timers ++
      if timetable.stopped then [] else
        [⟨timetable.now + delay * timetable.resolution, timetable.nextNumber, action, period⟩] := by
  rw [Timetable.submit]
  split <;> simp

theorem clock_submit (timetable : Timetable Action) (delay : Nat) (action : Action)
    (period : Option Nat) : (timetable.submit delay action period).now = timetable.now ∧
      (timetable.submit delay action period).resolution = timetable.resolution ∧
      (timetable.submit delay action period).stopped = timetable.stopped :=
  timetable.clock_submitAll [⟨delay, action, period⟩]

/-- A submission concerns no task but the one that it is for. -/
theorem leaves_submit (rota : Rota Action) {chore : Chore Action} (apart : chore ≠ .run number)
    (delay : Nat) (period : Option Nat) (tasks : List RegularTask) :
    Leaves number rota
      { rota with worker := rota.worker.step (.submit delay chore period), tasks } := by
  obtain ⟨now, resolution, stopped⟩ := clock_submit rota.worker.timetable delay chore period
  refine ⟨?_, rfl, fun _ => rfl, stopped.trans, resolution, now.ge, rfl⟩
  simp only [waiting, Worker.step, timers_submit, List.filter_append]
  split
  · exact List.append_nil _
  · have other : isRunOf number ⟨rota.worker.timetable.now + delay *
        rota.worker.timetable.resolution, rota.worker.timetable.nextNumber, chore, period⟩ =
          false := by
      rw [← Bool.not_eq_true, isRunOf_iff]
      exact apart
    rw [List.filter_cons_of_neg (by simp [other]), List.filter_nil, List.append_nil]

theorem Known.submit {worker : Worker (Chore Action)} {count more : Nat}
    (known : Known worker count) (least : count ≤ more) {chore : Chore Action}
    (registered : ∀ number, chore = .run number → number < more) (delay : Nat)
    (period : Option Nat) : Known (worker.step (.submit delay chore period)) more := by
  intro timer listed number isRun
  simp only [Worker.step, timers_submit, List.append_assoc, List.mem_append] at listed
  rcases listed with waits | new | begun
  · exact (known timer (List.mem_append_left _ waits) number isRun).trans_le least
  · split at new
    · exact absurd new List.not_mem_nil
    · obtain rfl := List.mem_singleton.mp new
      exact registered number isRun
  · exact (known timer (List.mem_append_right _ begun) number isRun).trans_le least

theorem Sane.after (sane : rota.Sane) (delay : Nat) (action : Action) :
    (rota.step (.after delay action)).Sane where
  worker := sane.worker.step (.submit delay (.once action) none)
  known := sane.known.submit le_rfl (fun _ isRun => by cases isRun) delay none
  renewing := sane.renewing
  standing number task found :=
    (sane.standing number task found).of_leaves
      (rota.leaves_submit (fun isRun => by cases isRun) delay none rota.tasks)

/-- A job that runs was begun. -/
theorem Sane.mem_begun (sane : rota.Sane) (busy : rota.worker.running = some timer) :
    timer ∈ rota.worker.begun := by
  simp [sane.worker.inTurn, busy]

/-- A task that was not registered has no timers and never had any. -/
theorem Sane.nothing_of_unregistered (sane : rota.Sane)
    (unregistered : rota.tasks.length ≤ number) : rota.waiting number = [] ∧
      rota.running? number = none ∧ rota.worker.begun.countP (isRunOf number) = 0 := by
  have unknown (timer : Timer (Chore Action))
      (listed : timer ∈ rota.worker.timetable.timers ++ rota.worker.begun) :
      ¬ isRunOf number timer = true := by
    rw [isRunOf_iff]
    exact fun isRun => unregistered.not_gt (sane.known timer listed number isRun)
  exact ⟨List.filter_eq_nil_iff.mpr fun timer waits => unknown timer (List.mem_append_left _ waits),
    Option.filter_eq_none_iff.mpr fun timer busy =>
      unknown timer (List.mem_append_right _ (sane.mem_begun busy)),
    List.countP_eq_zero.mpr fun timer begun => unknown timer (List.mem_append_right _ begun)⟩

/-- A task that is registered waits for its first run, unless the timetable was shut down. -/
theorem Sane.standing_register (sane : rota.Sane) (period : Nat) :
    Standing (rota.register period) rota.tasks.length { period, registered := rota.now } := by
  obtain ⟨now, resolution, stopped⟩ := clock_submit rota.worker.timetable period
    (.run rota.tasks.length) (some period)
  obtain ⟨nothing, idle, never⟩ := sane.nothing_of_unregistered le_rfl
  refine ⟨RegularTask.spaced_of_no_run _ _ _, now.ge, never.symm, ?_⟩
  cases going : rota.worker.timetable.stopped with
  | true =>
      refine .finished ?_ idle rfl fun _ => stopped.trans going
      simpa [waiting, Rota.register, Worker.step, timers_submit, going] using nothing
  | false =>
      refine .waits ⟨rota.now + period * rota.worker.timetable.resolution,
        rota.worker.timetable.nextNumber, .run rota.tasks.length, some period⟩ ?_ idle rfl ?_ rfl
        fun stint listed => absurd listed List.not_mem_nil
      · rw [waiting] at nothing
        simp [waiting, Rota.register, Worker.step, timers_submit, going, nothing, isRunOf, Rota.now]
      · simp [RegularTask.since, span, Rota.register, Worker.step, resolution]

theorem Sane.register (sane : rota.Sane) (period : Nat) : (rota.register period).Sane where
  worker := sane.worker.step (.submit period (.run rota.tasks.length) (some period))
  known := by
    rw [Rota.register, List.length_append]
    exact sane.known.submit (Nat.le_add_right _ _) (fun number isRun => by cases isRun; simp)
      period (some period)
  renewing := sane.renewing
  standing number task found := by
    rw [Rota.register, List.getElem?_append] at found
    split at found
    next before =>
      have apart : Chore.run rota.tasks.length ≠ (.run number : Chore Action) := fun same => by
        cases same
        exact Nat.lt_irrefl _ before
      exact (sane.standing number task found).of_leaves (rota.leaves_submit apart period _ _)
    next notBefore =>
      rw [List.getElem?_singleton, Option.ite_none_right_eq_some, Option.some.injEq] at found
      obtain ⟨difference, rfl⟩ := found
      obtain rfl : number = rota.tasks.length := by omega
      exact sane.standing_register period

/-! ## Looks -/

/-- The rota when a job was begun. -/
def begun (rota : Rota Action) (timer : Timer (Chore Action)) : Rota Action :=
  { rota with
    worker := { rota.worker with
      timetable := rota.worker.timetable.withdraw timer
      running := some timer
      begun := rota.worker.begun ++ [timer] }
    tasks := rota.tasksBegun timer.action }

/-- All that a look may do. -/
inductive Looked (rota : Rota Action) : Rota Action → Prop
  | waits : Looked rota rota
  | leaves (present : rota.worker.gone = false) (idle : rota.worker.running = none)
      (stopped : rota.worker.timetable.stopped = true) :
      Looked rota { rota with worker := rota.worker.leave }
  | begins (timer : Timer (Chore Action)) (present : rota.worker.gone = false)
      (begins : rota.worker.Begins timer) : Looked rota (rota.begun timer)

theorem Sane.looked (sane : rota.Sane) : rota.Looked rota.look := by
  obtain ⟨worker, same, looked⟩ : ∃ worker, worker = rota.worker.look ∧
      rota.worker.Looked worker := ⟨_, rfl, sane.worker.looked⟩
  rw [look, ← same]
  cases looked with
  | waits => cases busy : rota.worker.running <;> simpa only [busy] using .waits
  | leaves present idle stopped =>
      have nothing : rota.worker.leave.running = none := idle
      simp only [idle, nothing]
      exact .leaves present idle stopped
  | begins timer present begins =>
      simp only [begins.idle]
      exact .begins timer present begins

theorem length_tasksBegun (rota : Rota Action) (chore : Chore Action) :
    (rota.tasksBegun chore).length = rota.tasks.length := by
  cases chore <;> simp [tasksBegun]

/-- What waits of a task when a timer was withdrawn. -/
theorem waiting_withdraw (timetable : Timetable (Chore Action)) (timer : Timer (Chore Action))
    (number : Nat) : (timetable.withdraw timer).timers.filter (isRunOf number) =
      (timetable.timers.filter (isRunOf number)).filter fun other =>
        other.number ≠ timer.number := by
  rw [Timetable.withdraw, List.filter_comm]

/-- The task that waited with a timer runs when the timer was begun. -/
theorem Standing.begun (standing : Standing rota number task)
    (begins : rota.worker.Begins timer) (calm : rota.renewing = false)
    (isRun : timer.action = .run number) :
    Standing (rota.begun timer) number (task.begin rota.now) := by
  have listed : timer ∈ rota.waiting number :=
    List.mem_filter.mpr ⟨begins.foremost.waits, isRunOf_iff.mpr isRun⟩
  have idle : rota.running? number = none := by rw [running?, begins.idle, Option.filter_none]
  cases standing.stage with
  | waits only timers _ period due rests wanted =>
      obtain rfl : timer = only := by simpa [timers] using listed
      have reached : task.since + rota.span task ≤ rota.now := due.trans begins.due
      refine ⟨standing.spaced.begin rests wanted reached, standing.past, ?_, ?_⟩
      · rw [RegularTask.starts_begin rests]
        simp [Rota.begun, standing.recorded, isRunOf_iff.mpr isRun]
      refine .runs timer rota.now ?_ ?_ period rfl le_rfl calm wanted
      · rw [waiting] at timers
        simp [Rota.begun, waiting, waiting_withdraw, timers]
      · simp [Rota.begun, running?, isRunOf_iff.mpr isRun]
  | runs _ _ timers => simp [timers] at listed
  | renews _ timers => simp [timers] at listed
  | finished timers => simp [timers] at listed

/-- A job that is begun concerns no other task. -/
theorem leaves_begun (worker : rota.worker.Sane) (begins : rota.worker.Begins timer)
    (apart : timer.action ≠ .run number) : Leaves number rota (rota.begun timer) := by
  have idle : rota.running? number = none := by rw [running?, begins.idle, Option.filter_none]
  have other : isRunOf number timer = false := by
    rwa [← Bool.not_eq_true, isRunOf_iff]
  refine ⟨?_, ?_, fun busy => absurd idle busy, id, rfl, le_rfl, by simp [Rota.begun, other]⟩
  · refine (waiting_withdraw _ _ _).trans (List.filter_eq_self.mpr fun waiting listed => ?_)
    obtain ⟨waits, isRun⟩ := List.mem_filter.mp listed
    refine decide_eq_true fun same => ?_
    obtain rfl := worker.numbered.eq_of_number_eq waits begins.foremost.waits same
    exact Bool.false_ne_true (other.symm.trans isRun)
  · rw [idle, running?, Rota.begun, Option.filter_some, if_neg (by simp [other])]

theorem getElem?_tasksBegun {found : RegularTask} {chore : Chore Action}
    (listed : (rota.tasksBegun chore)[number]? = some found) : ∃ task,
      rota.tasks[number]? = some task ∧
        (chore = .run number ∧ found = task.begin rota.now ∨
          chore ≠ .run number ∧ found = task) := by
  cases chore with
  | once action => exact ⟨found, listed, by simp⟩
  | run other =>
      rw [tasksBegun, List.getElem?_modify] at listed
      obtain ⟨task, before, same⟩ := Option.map_eq_some_iff.mp listed
      refine ⟨task, before, ?_⟩
      by_cases same : other = number <;> simp_all

theorem Sane.calm (sane : rota.Sane) (idle : rota.worker.running = none) :
    rota.renewing = false := by
  rw [← Bool.not_eq_true]
  intro renewing
  obtain ⟨timer, _, busy, _⟩ := sane.renewing renewing
  rw [idle] at busy
  cases busy

theorem Sane.begun (sane : rota.Sane) (present : rota.worker.gone = false)
    (begins : rota.worker.Begins timer) : (rota.begun timer).Sane where
  worker := (Worker.Looked.begins timer present begins).sane sane.worker
  known other listed number isRun := by
    rw [Rota.begun, length_tasksBegun]
    rcases List.mem_append.mp listed with waits | begun
    · exact sane.known other (List.mem_append_left _ (List.mem_of_mem_filter waits)) number isRun
    · rcases List.mem_append.mp begun with before | now
      · exact sane.known other (List.mem_append_right _ before) number isRun
      · obtain rfl := List.mem_singleton.mp now
        exact sane.known other (List.mem_append_left _ begins.foremost.waits) number isRun
  renewing renewing := absurd renewing (by simp [Rota.begun, sane.calm begins.idle])
  standing number found listed := by
    obtain ⟨task, before, ⟨isRun, rfl⟩ | ⟨apart, rfl⟩⟩ := getElem?_tasksBegun listed
    · exact (sane.standing number task before).begun begins (sane.calm begins.idle) isRun
    · exact (sane.standing number found before).of_leaves
        (leaves_begun sane.worker begins apart)

/-- No task has a timer any more when the worker has left. -/
theorem Standing.leave (standing : Standing rota number task)
    (idle : rota.worker.running = none) :
    Standing { rota with worker := rota.worker.leave } number task := by
  have still : rota.running? number = none := by rw [running?, idle, Option.filter_none]
  refine ⟨standing.spaced, standing.past, standing.recorded, .finished rfl still ?_ fun _ => rfl⟩
  cases standing.stage with
  | waits _ _ _ _ _ rests => exact rests
  | runs _ _ _ busy => rw [still] at busy; cases busy
  | renews _ _ busy => rw [still] at busy; cases busy
  | finished _ _ rests => exact rests

theorem Looked.sane {after : Rota Action} (looked : rota.Looked after) (sane : rota.Sane) :
    after.Sane := by
  cases looked with
  | waits => exact sane
  | leaves present idle stopped =>
      exact ⟨(Worker.Looked.leaves present idle stopped).sane sane.worker,
        fun timer listed => sane.known timer (List.mem_append_right _ listed), sane.renewing,
        fun number task found => (sane.standing number task found).leave idle⟩
  | begins timer present begins => exact sane.begun present begins

/-! ## Ends of jobs -/

theorem running?_eq_some_iff : rota.running? number = some timer ↔
    rota.worker.running = some timer ∧ timer.action = .run number := by
  rw [running?, Option.filter_eq_some_iff, isRunOf_iff]

theorem running?_eq_none (busy : rota.worker.running = some timer)
    (apart : timer.action ≠ .run number) : rota.running? number = none := by
  rw [Option.eq_none_iff_forall_ne_some]
  intro other same
  obtain ⟨also, isRun⟩ := running?_eq_some_iff.mp same
  obtain rfl : timer = other := Option.some.inj (busy.symm.trans also)
  exact apart isRun

theorem running_finish (worker : Worker Action) : worker.finish.running = none := by
  rw [Worker.finish]
  split
  next nothing => exact nothing
  · rfl

/-- The end of a job concerns no task that has no job. -/
theorem leaves_ended (idle : rota.running? number = none) (tasks : List RegularTask)
    (renewing : Bool) : Leaves number rota ⟨rota.worker.finish, tasks, renewing⟩ where
  waiting := by simp [waiting]
  running? := by rw [idle, running?, running_finish, Option.filter_none]
  renewing busy := absurd idle busy
  stopped := by simp
  resolution := by simp
  now := by simp [Rota.now]
  begun := by simp

theorem Known.finish {worker : Worker (Chore Action)} {count : Nat} (known : Known worker count) :
    Known worker.finish count := by
  rwa [Known, Worker.timetable_finish, Worker.begun_finish]

/-- A task that has returned is about to wait again, or it is over. -/
theorem Standing.finish (standing : Standing rota number task)
    (busy : rota.running? number = some timer) (calm : rota.renewing = false) (again : Bool)
    (tasks : List RegularTask) :
    Standing ⟨if again then rota.worker else rota.worker.finish, tasks, again⟩ number
      (task.finish rota.now again) := by
  cases standing.stage with
  | waits _ _ idle => rw [idle] at busy; cases busy
  | renews _ _ _ _ _ renewing => exact absurd (calm.symm.trans renewing) Bool.false_ne_true
  | finished _ idle => rw [idle] at busy; cases busy
  | runs same start timers also period current begun _ wanted =>
      obtain rfl : timer = same := Option.some.inj (busy.symm.trans also)
      have spaced := standing.spaced.finish current begun again
      have recorded := (congrArg List.length (task.starts_finish rota.now again)).trans
        standing.recorded
      have finished : task.finish rota.now again =
          { task with past := task.past ++ [⟨start, rota.now, again⟩], current := none } := by
        simp only [RegularTask.finish, current]
      rw [finished] at spaced recorded ⊢
      cases again with
      | true =>
          refine ⟨spaced, by simp [RegularTask.since, Rota.now], recorded,
            .renews timer timers busy period rfl rfl ?_⟩
          simpa [RegularTask.Wanted, or_imp, forall_and] using wanted
      | false =>
          refine ⟨?_, ?_, ?_, .finished ?_ ?_ rfl ?_⟩
          · simpa [span] using spaced
          · simp [RegularTask.since, Rota.now]
          · simpa using recorded
          · simpa [waiting] using timers
          · simp [running?, running_finish]
          · simp [RegularTask.Wanted]

/-- The end of a job that is done once concerns no task. -/
theorem Sane.finish_once (sane : rota.Sane) (busy : rota.worker.running = some timer)
    (apart : ∀ number, timer.action ≠ .run number) :
    Sane { rota with worker := rota.worker.finish } where
  worker := sane.worker.finish
  known := sane.known.finish
  renewing renewing := by
    obtain ⟨other, number, also, isRun⟩ := sane.renewing renewing
    obtain rfl : timer = other := Option.some.inj (busy.symm.trans also)
    exact absurd isRun (apart number)
  standing number task found :=
    (sane.standing number task found).of_leaves
      (leaves_ended (running?_eq_none busy (apart number)) _ _)

/-- A task that has returned concerns no other task. -/
theorem leaves_returned (idle : rota.running? number = none) (again : Bool)
    (tasks : List RegularTask) :
    Leaves number rota ⟨if again then rota.worker else rota.worker.finish, tasks, again⟩ := by
  cases again with
  | true => exact ⟨rfl, rfl, fun busy => absurd idle busy, id, rfl, le_rfl, rfl⟩
  | false => exact leaves_ended idle _ _

theorem Sane.finish_run (sane : rota.Sane) (busy : rota.worker.running = some timer)
    {other : Nat} (isRun : timer.action = .run other) (calm : rota.renewing = false)
    (again : Bool) :
    Sane ⟨if again then rota.worker else rota.worker.finish,
      rota.tasks.modify other (·.finish rota.now again), again⟩ where
  worker := by
    cases again with
    | true => exact sane.worker
    | false => exact sane.worker.finish
  known := by
    rw [List.length_modify]
    cases again with
    | true => exact sane.known
    | false => exact sane.known.finish
  renewing renewing := by
    obtain rfl : again = true := renewing
    exact ⟨timer, other, busy, isRun⟩
  standing number found listed := by
    rw [List.getElem?_modify] at listed
    obtain ⟨task, before, changed⟩ := Option.map_eq_some_iff.mp listed
    have standing := sane.standing number task before
    by_cases same : other = number
    · rw [if_pos same] at changed
      subst same changed
      exact standing.finish (running?_eq_some_iff.mpr ⟨busy, isRun⟩) calm again _
    · rw [if_neg same] at changed
      subst changed
      have idle : rota.running? number = none :=
        running?_eq_none busy (by simpa [isRun] using same)
      exact standing.of_leaves (leaves_returned idle again _)

theorem Sane.finish (sane : rota.Sane) (again : Bool) : (rota.finish again).Sane := by
  cases busy : rota.worker.running with
  | none => simpa only [Rota.finish, busy, Option.map_none] using sane
  | some timer =>
      simp only [Rota.finish, busy, Option.map_some]
      cases kind : timer.action with
      | once action => exact sane.finish_once busy (by simp [kind])
      | run other =>
          simp only
          split
          · exact sane
          next calm => exact sane.finish_run busy kind (Bool.eq_false_of_not_eq_true calm) again

/-! ## Next timers -/

theorem Leaves.trans {first second third : Rota Action} (before : Leaves number first second)
    (after : Leaves number second third) : Leaves number first third where
  waiting := after.waiting.trans before.waiting
  running? := after.running?.trans before.running?
  renewing busy := (after.renewing (before.running? ▸ busy)).trans (before.renewing busy)
  stopped stopped := after.stopped (before.stopped stopped)
  resolution := after.resolution.trans before.resolution
  now := before.now.trans after.now
  begun := after.begun.trans before.begun

/-- The job of a task that wants to be run again submits a timer one period ahead, unless the
timetable was shut down. -/
theorem Standing.renew (standing : Standing rota number task)
    (busy : rota.running? number = some timer) (renewing : rota.renewing = true)
    (tasks : List RegularTask) :
    timer.period = some task.period ∧
      Standing
        ⟨(rota.worker.step (.submit task.period (.run number) (some task.period))).finish, tasks,
          false⟩ number task := by
  cases standing.stage with
  | waits _ _ idle => rw [idle] at busy; cases busy
  | runs _ _ _ _ _ _ _ calm => exact absurd (calm.symm.trans renewing) Bool.false_ne_true
  | finished _ idle => rw [idle] at busy; cases busy
  | renews same timers also period rests _ wanted =>
      obtain rfl : timer = same := Option.some.inj (busy.symm.trans also)
      obtain ⟨now, resolution, stopped⟩ := clock_submit rota.worker.timetable task.period
        (.run number) (some task.period)
      refine ⟨period, ?_, ?_, ?_, ?_⟩
      · simpa [span, Worker.step, resolution] using standing.spaced
      · simpa [Rota.now, Worker.step, now] using standing.past
      · simpa [Worker.step] using standing.recorded
      rw [waiting] at timers
      cases going : rota.worker.timetable.stopped with
      | true =>
          refine .finished ?_ ?_ rests fun _ => ?_
          · simpa [waiting, Worker.step, timers_submit, going] using timers
          · simp [running?, running_finish]
          · simpa [Worker.step] using stopped.trans going
      | false =>
          refine .waits ⟨rota.now + task.period * rota.worker.timetable.resolution,
            rota.worker.timetable.nextNumber, .run number, some task.period⟩ ?_ ?_ rfl ?_ rests
            wanted
          · simp [waiting, Worker.step, timers_submit, going, timers, isRunOf, Rota.now]
          · simp [running?, running_finish]
          · simpa [span, Worker.step, resolution] using standing.past

/-- A next timer concerns no task but its own, and neither does the end of the job. -/
theorem Sane.renew_run (sane : rota.Sane) (busy : rota.worker.running = some timer)
    {other : Nat} (isRun : timer.action = .run other) (listed : rota.tasks[other]? = some task)
    (renewed : Standing
      ⟨(rota.worker.step (.submit task.period (.run other) (some task.period))).finish, rota.tasks,
        false⟩ other task) :
    Sane ⟨(rota.worker.step (.submit task.period (.run other) (some task.period))).finish,
      rota.tasks, false⟩ where
  worker := (sane.worker.step _).finish
  known := by
    refine (sane.known.submit le_rfl (fun number same => ?_) _ _).finish
    obtain rfl : other = number := Chore.run.inj same
    exact (List.getElem?_eq_some_iff.mp listed).1
  renewing still := absurd still Bool.false_ne_true
  standing number found also := by
    by_cases same : number = other
    · subst same
      obtain rfl : task = found := Option.some.inj (listed.symm.trans also)
      exact renewed
    · have apart : Chore.run other ≠ (.run number : Chore Action) := by
        simpa using Ne.symm same
      have idle : rota.running? number = none :=
        running?_eq_none busy (by simpa [isRun] using Ne.symm same)
      have submitted := rota.leaves_submit apart task.period (some task.period) rota.tasks
      exact (sane.standing number found also).of_leaves
        (submitted.trans (leaves_ended (submitted.running?.trans idle) _ _))

theorem Sane.renew (sane : rota.Sane) : rota.renew.Sane := by
  cases busy : rota.worker.running with
  | none => simpa only [Rota.renew, busy] using sane
  | some timer =>
      simp only [Rota.renew, busy]
      split
      next renewing =>
        obtain ⟨same, other, also, isRun⟩ := sane.renewing renewing
        obtain rfl : timer = same := Option.some.inj (busy.symm.trans also)
        have registered : other < rota.tasks.length :=
          sane.known timer (List.mem_append_right _ (sane.mem_begun busy)) other isRun
        obtain ⟨task, listed⟩ : ∃ task, rota.tasks[other]? = some task :=
          ⟨_, List.getElem?_eq_getElem registered⟩
        have job : rota.running? other = some timer := running?_eq_some_iff.mpr ⟨busy, isRun⟩
        obtain ⟨period, renewed⟩ := (sane.standing other task listed).renew job renewing rota.tasks
        have next : rota.worker.renew timer =
            rota.worker.step (.submit task.period (.run other) (some task.period)) := by
          simp only [Worker.renew, period, isRun]
        rw [next]
        exact sane.renew_run busy isRun listed renewed
      · exact sane

/-! ## Every step -/

theorem Sane.step (sane : rota.Sane) (step : Step Action) : (rota.step step).Sane := by
  cases step with
  | after delay action => exact sane.after delay action
  | every period => exact sane.register period
  | advance time =>
      refine ⟨sane.worker.step (.advance time), sane.known, sane.renewing, fun number task found =>
        (sane.standing number task found).of_leaves ⟨rfl, rfl, fun _ => rfl, id, rfl, ?_, rfl⟩⟩
      exact Nat.le_max_left _ _
  | shutDown =>
      exact ⟨sane.worker.step .shutDown, sane.known, sane.renewing, fun number task found =>
        (sane.standing number task found).of_leaves
          ⟨rfl, rfl, fun _ => rfl, fun _ => rfl, rfl, le_rfl, rfl⟩⟩
  | look => exact sane.looked.sane sane
  | finish again => exact sane.finish again
  | renew => exact sane.renew

theorem Sane.run (sane : rota.Sane) (steps : List (Step Action)) : (rota.run steps).Sane :=
  List.foldlRecOn (motive := Sane) steps _ sane fun _ known step _ => known.step step

end Rota
end LoadAtlas
