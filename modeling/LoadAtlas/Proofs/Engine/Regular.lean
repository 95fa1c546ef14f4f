import LoadAtlas.Proofs.Engine.Rota

/-!
# Runs of regular tasks

A step begins a run of a task, ends one, or leaves the task as it is.  A task that holds no timer
is never run again; and no task is run any more after the timetable was shut down, for then nothing
is begun.
-/

namespace LoadAtlas

namespace Worker

variable {Action : Type} {worker : Worker Action}

theorem gone_step (gone : worker.gone = true) (step : Step Action) :
    (worker.step step).gone = true := by
  cases step with
  | look => simp [step, look, gone]
  | finish =>
      rw [step, finish]
      split <;> exact gone
  | _ => exact gone

/-- A worker that has left does not come back. -/
theorem gone_run (gone : worker.gone = true) (steps : List (Step Action)) :
    (worker.run steps).gone = true :=
  List.foldlRecOn (motive := fun after : Worker Action => after.gone = true) steps _ gone
    fun _ still step _ => gone_step still step

end Worker

namespace Rota

variable {Action : Type} {rota : Rota Action} {number : Nat} {task : RegularTask}
  {timer : Timer (Chore Action)}

/-! ## What a step makes of a task -/

/-- All that a step may make of a task. -/
inductive Changes (rota : Rota Action) (number : Nat) (task : RegularTask) : RegularTask → Prop
  | stays : Changes rota number task task
  | begins (timer : Timer (Chore Action)) (begins : rota.worker.Begins timer)
      (isRun : timer.action = .run number) : Changes rota number task (task.begin rota.now)
  | returns (timer : Timer (Chore Action)) (busy : rota.running? number = some timer)
      (again : Bool) : Changes rota number task (task.finish rota.now again)

theorem Looked.changes {after : Rota Action} (looked : rota.Looked after)
    (found : rota.tasks[number]? = some task) :
    ∃ later, after.tasks[number]? = some later ∧ Changes rota number task later := by
  cases looked with
  | waits => exact ⟨task, found, .stays⟩
  | leaves => exact ⟨task, found, .stays⟩
  | begins timer present begins =>
      cases kind : timer.action with
      | once action => exact ⟨task, by simpa [Rota.begun, kind, tasksBegun] using found, .stays⟩
      | run other =>
          by_cases same : other = number
          · subst same
            exact ⟨task.begin rota.now, by simp [Rota.begun, kind, tasksBegun, found],
              .begins timer begins kind⟩
          · exact ⟨task, by simp [Rota.begun, kind, tasksBegun, found, same], .stays⟩

theorem changes_finish (again : Bool) (found : rota.tasks[number]? = some task) :
    ∃ later, (rota.finish again).tasks[number]? = some later ∧ Changes rota number task later := by
  cases busy : rota.worker.running with
  | none =>
      exact ⟨task, by simpa only [Rota.finish, busy, Option.map_none] using found, .stays⟩
  | some timer =>
      cases kind : timer.action with
      | once action =>
          exact ⟨task, by simpa only [Rota.finish, busy, Option.map_some, kind] using found, .stays⟩
      | run other =>
          simp only [Rota.finish, busy, Option.map_some, kind]
          split
          · exact ⟨task, found, .stays⟩
          · by_cases same : other = number
            · subst same
              exact ⟨task.finish rota.now again, by simp [found],
                .returns timer (running?_eq_some_iff.mpr ⟨busy, kind⟩) again⟩
            · exact ⟨task, by simp [found, same], .stays⟩

theorem tasks_renew (rota : Rota Action) : rota.renew.tasks = rota.tasks := by
  rw [Rota.renew]
  split
  · rfl
  · split <;> rfl

theorem Sane.changes (sane : rota.Sane) (step : Step Action)
    (found : rota.tasks[number]? = some task) : ∃ later,
      (rota.step step).tasks[number]? = some later ∧ Changes rota number task later := by
  cases step with
  | every =>
      have before := (List.getElem?_eq_some_iff.mp found).1
      exact ⟨task, (List.getElem?_append_left before).trans found, .stays⟩
  | look => exact sane.looked.changes found
  | finish again => exact changes_finish again found
  | renew => exact ⟨task, (congrArg (·[number]?) rota.tasks_renew).trans found, .stays⟩
  | _ => exact ⟨task, found, .stays⟩

/-! ## Timers of a task -/

theorem Standing.length_timersOf_le (standing : Standing rota number task) :
    (rota.timersOf number).length ≤ 1 := by
  cases standing.stage with
  | waits timer timers idle => simp [timersOf, timers, idle]
  | runs timer start timers busy => simp [timersOf, timers, busy]
  | renews timer timers busy => simp [timersOf, timers, busy]
  | finished timers idle => simp [timersOf, timers, idle]

theorem Sane.length_timersOf_le (sane : rota.Sane) (number : Nat) :
    (rota.timersOf number).length ≤ 1 := by
  cases found : rota.tasks[number]? with
  | some task => exact (sane.standing number task found).length_timersOf_le
  | none =>
      obtain ⟨timers, idle, -⟩ := sane.nothing_of_unregistered (List.getElem?_eq_none_iff.mp found)
      simp [timersOf, timers, idle]

theorem Standing.length_timersOf_eq_one (standing : Standing rota number task)
    (wanted : task.Wanted) (going : rota.worker.timetable.stopped = false) :
    (rota.timersOf number).length = 1 := by
  cases standing.stage with
  | waits timer timers idle => simp [timersOf, timers, idle]
  | runs timer start timers busy => simp [timersOf, timers, busy]
  | renews timer timers busy => simp [timersOf, timers, busy]
  | finished _ _ _ reason => exact absurd (going.symm.trans (reason wanted)) Bool.false_ne_true

theorem Standing.timersOf_eq_nil (standing : Standing rota number task)
    (unwanted : ¬ task.Wanted) : rota.timersOf number = [] := by
  cases standing.stage with
  | waits _ _ _ _ _ _ wanted => exact absurd wanted unwanted
  | runs _ _ _ _ _ _ _ _ wanted => exact absurd wanted unwanted
  | renews _ _ _ _ _ _ wanted => exact absurd wanted unwanted
  | finished timers idle => simp [timersOf, timers, idle]

/-- A task without timers stays as it is. -/
theorem Changes.eq_of_timersOf_eq_nil {later : RegularTask}
    (changes : Changes rota number task later) (none : rota.timersOf number = []) :
    later = task := by
  obtain ⟨timers, idle⟩ := List.append_eq_nil_iff.mp none
  cases changes with
  | stays => rfl
  | begins timer begins isRun =>
      have listed : timer ∈ rota.waiting number :=
        List.mem_filter.mpr ⟨begins.foremost.waits, isRunOf_iff.mpr isRun⟩
      rw [timers] at listed
      exact absurd listed List.not_mem_nil
  | returns timer busy =>
      rw [busy] at idle
      cases idle

/-- Once a run of a task did not want another one, nothing happens to the task any more. -/
theorem Sane.eq_of_unwanted (sane : rota.Sane) (found : rota.tasks[number]? = some task)
    (unwanted : ¬ task.Wanted) (steps : List (Step Action)) :
    (rota.run steps).tasks[number]? = some task := by
  induction steps generalizing rota with
  | nil => exact found
  | cons step steps induction =>
      obtain ⟨later, listed, changes⟩ := sane.changes step found
      have nothing := (sane.standing number task found).timersOf_eq_nil unwanted
      obtain rfl := changes.eq_of_timersOf_eq_nil nothing
      exact induction (sane.step step) listed

/-! ## The clock -/

/-- Both rotas have the same time, and both were shut down or neither was. -/
structure SameClock (before after : Rota Action) : Prop where
  now : after.now = before.now
  resolution : after.worker.timetable.resolution = before.worker.timetable.resolution
  stopped : after.worker.timetable.stopped = before.worker.timetable.stopped

theorem sameClock_submit (rota : Rota Action) (delay : Nat) (chore : Chore Action)
    (period : Option Nat) (tasks : List RegularTask) : SameClock rota
      { rota with worker := rota.worker.step (.submit delay chore period), tasks } := by
  obtain ⟨now, resolution, stopped⟩ := clock_submit rota.worker.timetable delay chore period
  exact ⟨now, resolution, stopped⟩

theorem Looked.sameClock {after : Rota Action} (looked : rota.Looked after) :
    SameClock rota after := by
  cases looked with
  | waits => exact ⟨rfl, rfl, rfl⟩
  | leaves present idle stopped => exact ⟨rfl, rfl, stopped.symm⟩
  | begins => exact ⟨rfl, rfl, rfl⟩

theorem sameClock_finish (rota : Rota Action) (again : Bool) :
    SameClock rota (rota.finish again) := by
  rw [Rota.finish]
  split
  · exact ⟨rfl, rfl, rfl⟩
  · constructor <;> simp [Rota.now]
  · split
    · exact ⟨rfl, rfl, rfl⟩
    · cases again <;> constructor <;> simp [Rota.now]

theorem sameClock_renew (rota : Rota Action) : SameClock rota rota.renew := by
  cases busy : rota.worker.running with
  | none =>
      simp only [Rota.renew, busy]
      exact ⟨rfl, rfl, rfl⟩
  | some timer =>
      simp only [Rota.renew, busy, Worker.renew]
      split
      · cases timer.period with
        | none => constructor <;> simp [Rota.now]
        | some period =>
            have submitted := rota.sameClock_submit period timer.action (some period) rota.tasks
            constructor
            · simpa [Rota.now] using submitted.now
            · simpa using submitted.resolution
            · simpa using submitted.stopped
      · exact ⟨rfl, rfl, rfl⟩

/-- Only two kinds of steps are about the clock. -/
theorem Sane.sameClock (sane : rota.Sane) {step : Step Action}
    (noAdvance : ∀ time, step ≠ .advance time) (noShutDown : step ≠ .shutDown) :
    SameClock rota (rota.step step) := by
  cases step with
  | after delay action => exact rota.sameClock_submit delay (.once action) none rota.tasks
  | every period => exact rota.sameClock_submit period (.run _) (some period) _
  | advance time => exact absurd rfl (noAdvance time)
  | shutDown => exact absurd rfl noShutDown
  | look => exact sane.looked.sameClock
  | finish again => exact rota.sameClock_finish again
  | renew => exact rota.sameClock_renew

theorem Sane.resolution_step (sane : rota.Sane) (step : Step Action) :
    (rota.step step).worker.timetable.resolution = rota.worker.timetable.resolution := by
  cases step with
  | advance | shutDown => rfl
  | _ => exact (sane.sameClock (by simp) (by simp)).resolution

theorem Sane.resolution_run (sane : rota.Sane) (steps : List (Step Action)) :
    (rota.run steps).worker.timetable.resolution = rota.worker.timetable.resolution := by
  induction steps generalizing rota with
  | nil => rfl
  | cons step steps induction =>
      exact (induction (sane.step step)).trans (sane.resolution_step step)

/-! ## Shutting down -/

theorem Sane.stopped_step (sane : rota.Sane) (step : Step Action) :
    (rota.step step).worker.timetable.stopped = true ↔
      rota.worker.timetable.stopped = true ∨ step = .shutDown := by
  cases step with
  | advance time => simp [Rota.step, Worker.step, Timetable.advance]
  | shutDown => simp [Rota.step, Worker.step, Timetable.shut]
  | _ =>
      rw [(sane.sameClock (by simp) (by simp)).stopped]
      simp

theorem Sane.stopped_run (sane : rota.Sane) (steps : List (Step Action)) :
    (rota.run steps).worker.timetable.stopped = true ↔
      rota.worker.timetable.stopped = true ∨ .shutDown ∈ steps := by
  induction steps generalizing rota with
  | nil => simp [Rota.run]
  | cons step steps induction =>
      refine (induction (sane.step step)).trans ?_
      rw [sane.stopped_step, List.mem_cons, or_assoc, eq_comm (a := step)]

/-- No run is begun any more after the timetable was shut down. -/
theorem Sane.starts_of_stopped (sane : rota.Sane) (found : rota.tasks[number]? = some task)
    (stopped : rota.worker.timetable.stopped = true) (steps : List (Step Action)) :
    ∃ later, (rota.run steps).tasks[number]? = some later ∧ later.starts = task.starts := by
  induction steps generalizing rota task with
  | nil => exact ⟨task, found, rfl⟩
  | cons step steps induction =>
      obtain ⟨next, listed, changes⟩ := sane.changes step found
      have starts : next.starts = task.starts := by
        cases changes with
        | stays => rfl
        | begins timer begins =>
            exact absurd (begins.going.symm.trans stopped) Bool.false_ne_true
        | returns => exact task.starts_finish _ _
      obtain ⟨later, found, same⟩ :=
        induction (sane.step step) listed ((sane.stopped_step step).mpr (.inl stopped))
      exact ⟨later, found, same.trans starts⟩

/-! ## Registrations -/

/-- When each task was registered, and its period. -/
def registrations (now : Nat) : List (Step Action) → List (Nat × Nat)
  | [] => []
  | .every period :: steps => (now, period) :: registrations now steps
  | .advance time :: steps => registrations (max now time) steps
  | _ :: steps => registrations now steps

/-- When a task was registered, and its period. -/
def plan (task : RegularTask) : Nat × Nat :=
  (task.registered, task.period)

theorem map_plan_modify (tasks : List RegularTask) (number : Nat)
    (change : RegularTask → RegularTask) (same : ∀ task, plan (change task) = plan task) :
    (tasks.modify number change).map plan = tasks.map plan := by
  refine List.ext_getElem? fun other => ?_
  rw [List.getElem?_map, List.getElem?_map, List.getElem?_modify]
  cases tasks[other]? with
  | none => rfl
  | some task => by_cases here : number = other <;> simp [here, same]

theorem Looked.plans {after : Rota Action} (looked : rota.Looked after) :
    after.tasks.map plan = rota.tasks.map plan := by
  cases looked with
  | waits => rfl
  | leaves => rfl
  | begins timer =>
      cases kind : timer.action with
      | once action => simp [Rota.begun, kind, tasksBegun]
      | run task =>
          simp only [Rota.begun, kind, tasksBegun]
          exact map_plan_modify _ _ _ fun _ => rfl

theorem plans_finish (rota : Rota Action) (again : Bool) :
    (rota.finish again).tasks.map plan = rota.tasks.map plan := by
  have same (task : RegularTask) : plan (task.finish rota.now again) = plan task := by
    cases current : task.current <;> simp [plan, RegularTask.finish, current]
  rw [Rota.finish]
  split
  · rfl
  · rfl
  · split
    · rfl
    · exact map_plan_modify _ _ _ same

/-- Each step registers the task that it says, if it says one. -/
theorem Sane.plans (sane : rota.Sane) (step : Step Action) (steps : List (Step Action)) :
    (rota.step step).tasks.map plan ++ registrations (rota.step step).now steps =
      rota.tasks.map plan ++ registrations rota.now (step :: steps) := by
  cases step with
  | advance time => rfl
  | shutDown => rfl
  | every period =>
      rw [(sane.sameClock (by simp) (by simp)).now]
      simp [Rota.step, Rota.register, registrations, plan]
  | after delay action =>
      rw [(sane.sameClock (by simp) (by simp)).now]
      rfl
  | look =>
      rw [(sane.sameClock (by simp) (by simp)).now]
      exact congrArg (· ++ _) sane.looked.plans
  | finish again =>
      rw [(sane.sameClock (by simp) (by simp)).now]
      exact congrArg (· ++ _) (rota.plans_finish again)
  | renew =>
      rw [(sane.sameClock (by simp) (by simp)).now]
      exact congrArg (List.map plan · ++ _) rota.tasks_renew

theorem Sane.plans_run (sane : rota.Sane) (steps : List (Step Action)) :
    (rota.run steps).tasks.map plan = rota.tasks.map plan ++ registrations rota.now steps := by
  induction steps generalizing rota with
  | nil => simp [Rota.run, registrations]
  | cons step steps induction => exact (induction (sane.step step)).trans (sane.plans step steps)

/-! ## The worker of a rota -/

/-- Whatever a rota does, its worker does as a worker. -/
theorem exists_worker_step (rota : Rota Action) (step : Step Action) : ∃ steps,
    (rota.step step).worker = rota.worker.run steps := by
  cases step with
  | after delay action => exact ⟨[.submit delay (.once action) none], rfl⟩
  | every period => exact ⟨[.submit period (.run rota.tasks.length) (some period)], rfl⟩
  | advance time => exact ⟨[.advance time], rfl⟩
  | shutDown => exact ⟨[.shutDown], rfl⟩
  | look =>
      refine ⟨[.look], ?_⟩
      simp only [Rota.step, Rota.look]
      split <;> rfl
  | finish again =>
      simp only [Rota.step, Rota.finish]
      split
      · exact ⟨[], rfl⟩
      · exact ⟨[.finish], rfl⟩
      · split
        · exact ⟨[], rfl⟩
        · cases again with
          | true => exact ⟨[], rfl⟩
          | false => exact ⟨[.finish], rfl⟩
  | renew =>
      cases busy : rota.worker.running with
      | none => exact ⟨[], by simp only [Rota.step, Rota.renew, busy]; rfl⟩
      | some timer =>
          simp only [Rota.step, Rota.renew, Worker.renew, busy]
          split
          · cases timer.period with
            | none => exact ⟨[.finish], rfl⟩
            | some period =>
                exact ⟨[.submit period timer.action (some period), .finish], rfl⟩
          · exact ⟨[], rfl⟩

theorem exists_worker_run (rota : Rota Action) (steps : List (Step Action)) : ∃ workerSteps,
    (rota.run steps).worker = rota.worker.run workerSteps := by
  induction steps generalizing rota with
  | nil => exact ⟨[], rfl⟩
  | cons step steps induction =>
      obtain ⟨first, here⟩ := rota.exists_worker_step step
      obtain ⟨others, later⟩ := induction (rota.step step)
      refine ⟨first ++ others, later.trans ?_⟩
      rw [here, Worker.run, Worker.run, Worker.run, List.foldl_append]

/-- Once the worker has left, no task has a timer any more. -/
theorem Sane.timersOf_of_gone (sane : rota.Sane) (gone : rota.worker.gone = true)
    (steps : List (Step Action)) (number : Nat) : (rota.run steps).timersOf number = [] := by
  obtain ⟨workerSteps, same⟩ := rota.exists_worker_run steps
  have left := same ▸ Worker.gone_run gone workerSteps
  obtain ⟨idle, -, nothing⟩ := (sane.run steps).worker.left left
  simp [timersOf, waiting, running?, idle, nothing]

/-! ## Returns -/

/-- A run that returns ends its job, unless it wants another one. -/
theorem finish_of_running (busy : rota.running? number = some timer)
    (runs : rota.renewing = false) (again : Bool) :
    (rota.finish again).renewing = again ∧
      (rota.finish again).running? number = if again then some timer else none := by
  obtain ⟨running, isRun⟩ := running?_eq_some_iff.mp busy
  have returned : rota.finish again =
      { worker := if again then rota.worker else rota.worker.finish
        tasks := rota.tasks.modify number (·.finish rota.now again)
        renewing := again } := by
    simp [Rota.finish, running, isRun, runs]
  rw [returned]
  cases again with
  | true => exact ⟨rfl, busy⟩
  | false => exact ⟨rfl, by simp [running?, running_finish]⟩

/-- The job of a run that wants another one submits the next timer and is over. -/
theorem Sane.renew_of_renewing (sane : rota.Sane) (found : rota.tasks[number]? = some task)
    (busy : rota.running? number = some timer) (renewing : rota.renewing = true) :
    rota.renew.worker.running = none ∧ rota.renew.renewing = false ∧
      rota.renew.waiting number =
        if rota.worker.timetable.stopped then []
        else [⟨rota.now + rota.span task, rota.worker.timetable.nextNumber, .run number,
          some task.period⟩] := by
  obtain ⟨running, isRun⟩ := running?_eq_some_iff.mp busy
  cases (sane.standing number task found).stage with
  | waits _ _ idle => rw [idle] at busy; cases busy
  | runs _ _ _ _ _ _ _ calm => exact absurd (calm.symm.trans renewing) Bool.false_ne_true
  | finished _ idle => rw [idle] at busy; cases busy
  | renews same timers also period =>
      obtain rfl : timer = same := Option.some.inj (busy.symm.trans also)
      have renewed : rota.renew =
          { rota with
            worker := (rota.worker.step
              (.submit task.period (.run number) (some task.period))).finish
            renewing := false } := by
        simp [Rota.renew, Worker.renew, running, renewing, period, isRun]
      rw [renewed]
      refine ⟨running_finish _, rfl, ?_⟩
      rw [waiting] at timers
      cases stopped : rota.worker.timetable.stopped <;>
        simp [waiting, Worker.step, timers_submit, stopped, timers, isRunOf, Rota.now, span]

/-! ## All that can be told of regular tasks -/

/-- What holds of the tasks of a rota after its steps, and ever after. -/
structure Regular (resolution : Nat) (steps : List (Step Action)) (rota : Rota Action) : Prop where
  /-- The tasks are those that were registered. -/
  registered : rota.tasks.map plan = registrations 0 steps
  /-- No task has two timers that wait or whose jobs run. -/
  single : ∀ number, (rota.timersOf number).length ≤ 1
  /-- The run after so many others is begun so many periods after the registration. -/
  late : ∀ (number : Nat) task, rota.tasks[number]? = some task →
    ∀ (count start : Nat), task.starts[count]? = some start →
      task.registered + (count + 1) * (task.period * resolution) ≤ start
  /-- A run is begun only if the one before it wanted another one, and at least a period after
  that one has returned. -/
  spaced : ∀ (number : Nat) task, rota.tasks[number]? = some task →
    ∀ (count : Nat) stint start, task.past[count]? = some stint →
      task.starts[count + 1]? = some start →
        stint.again = true ∧ stint.finish + task.period * resolution ≤ start
  held : ∀ (number : Nat) task, rota.tasks[number]? = some task →
    (∀ stint ∈ task.past, stint.again = true) → rota.worker.timetable.stopped = false →
      (rota.timersOf number).length = 1
  returned : ∀ (number : Nat) timer, rota.running? number = some timer → rota.renewing = false →
    ∀ again, (rota.step (.finish again)).renewing = again ∧
      (rota.step (.finish again)).running? number = if again then some timer else none
  /-- The job of a run that wants another one submits the next timer, one period ahead, and is
  over. -/
  renewed : ∀ (number : Nat) task timer, rota.tasks[number]? = some task →
    rota.running? number = some timer → rota.renewing = true →
      (rota.step .renew).worker.running = none ∧ (rota.step .renew).renewing = false ∧
        (rota.step .renew).waiting number =
          if rota.worker.timetable.stopped then []
          else [⟨rota.now + task.period * resolution, rota.worker.timetable.nextNumber,
            .run number, some task.period⟩]
  /-- A task that a run did not want to be run again has no timer and never will. -/
  finished : ∀ (number : Nat) task, rota.tasks[number]? = some task →
    (∃ stint ∈ task.past, stint.again = false) → ∀ more,
      (rota.run more).tasks[number]? = some task ∧ (rota.run more).timersOf number = []
  stopped : rota.worker.timetable.stopped = true ↔ .shutDown ∈ steps
  /-- After the shutdown no run is begun. -/
  halted : rota.worker.timetable.stopped = true → ∀ (number : Nat) task,
    rota.tasks[number]? = some task → ∀ more, ∃ later,
      (rota.run more).tasks[number]? = some later ∧ later.starts = task.starts
  /-- The worker leaves at its first look after the job that ran at the shutdown, if any. -/
  leaves : rota.worker.timetable.stopped = true → rota.worker.running = none →
    (rota.step .look).worker.gone = true
  left : rota.worker.gone = true → ∀ more number, (rota.run more).timersOf number = []
  /-- The runs of a task are all its timers that the worker began. -/
  recorded : ∀ (number : Nat) task, rota.tasks[number]? = some task →
    task.starts.length = rota.worker.begun.countP (isRunOf number)
  dispatched : ∃ workerSteps, rota.worker = (Worker.start resolution).run workerSteps

theorem regular_of_start (resolution : Nat) (steps : List (Step Action)) :
    Regular resolution steps ((start resolution).run steps) := by
  have initial : (start resolution : Rota Action).Sane := sane_start resolution
  have sane := initial.run steps
  have clock := initial.resolution_run steps
  have unwanted {task : RegularTask} (stint : ∃ stint ∈ task.past, stint.again = false) :
      ¬ task.Wanted := by
    obtain ⟨stint, listed, last⟩ := stint
    exact fun wanted => absurd ((wanted stint listed).symm.trans last) (by simp)
  exact {
    registered := initial.plans_run steps
    single := fun number => sane.length_timersOf_le number
    late := fun number task found count start begun => by
      have spaced := (sane.standing number task found).spaced
      rw [span, clock] at spaced
      exact spaced.late begun
    spaced := fun number task found count stint start returned begun => by
      have spaced := (sane.standing number task found).spaced
      rw [span, clock] at spaced
      exact spaced.next count stint start returned begun
    held := fun number task found wanted going =>
      (sane.standing number task found).length_timersOf_eq_one wanted going
    returned := fun number timer => finish_of_running
    renewed := fun number task timer found busy renewing => by
      have renewed := sane.renew_of_renewing found busy renewing
      rwa [span, clock] at renewed
    finished := fun number task found ended more => by
      have still := sane.eq_of_unwanted found (unwanted ended) more
      exact ⟨still, ((sane.run more).standing number task still).timersOf_eq_nil (unwanted ended)⟩
    stopped := (initial.stopped_run steps).trans (by simp [start, Worker.start])
    halted := fun stopped number task found => sane.starts_of_stopped found stopped
    leaves := fun stopped idle => by
      simp only [step, look, idle]
      cases gone : ((start resolution).run steps).worker.gone <;>
        simp [Worker.look, gone, idle, stopped, Worker.leave]
    left := sane.timersOf_of_gone
    recorded := fun number task found => (sane.standing number task found).recorded
    dispatched := exists_worker_run _ steps }

/-- The second run is begun a period after the first one has returned, not after it was begun. -/
example : ((start 1 : Rota String).run
    [.every 5, .after 6 "between", .advance 5, .look, .advance 8, .finish true, .renew, .look,
      .finish true, .advance 12, .look, .advance 13, .look, .finish false, .renew, .advance 99,
      .look]).tasks.map RegularTask.starts = [[5, 13]] := rfl

end Rota
end LoadAtlas
