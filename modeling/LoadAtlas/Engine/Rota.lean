import LoadAtlas.Engine.Worker

/-!
# Rotas

A rota is a worker with tasks that are run again and again.  A task is registered with a period,
and its first timer is submitted then.  A run of the task tells when it returns whether the task is
to be run again.  If so, the job that ran it submits the next timer, as anybody else would, and
only then is the job over; in between the clock may go on, others may submit timers, and the
timetable may be shut down.
-/

namespace LoadAtlas

/-- What a timer of a rota is for. -/
inductive Chore (Action : Type)
  /-- Something that is done once. -/
  | once (action : Action)
  /-- A run of the task with the given number. -/
  | run (task : Nat)

/-- A run of a task that has returned. -/
structure Stint where
  start : Nat
  finish : Nat
  /-- Whether the task is to be run again. -/
  again : Bool

/-- A task that is run again and again, with its runs so far. -/
structure RegularTask where
  period : Nat
  /-- When the task was registered. -/
  registered : Nat
  /-- The runs that have returned. -/
  past : List Stint := []
  /-- When the run that has not returned was begun. -/
  current : Option Nat := none

namespace RegularTask

/-- When the runs were begun, those that have returned and the one that has not. -/
def starts (task : RegularTask) : List Nat :=
  task.past.map Stint.start ++ task.current.toList

def begin (task : RegularTask) (now : Nat) : RegularTask :=
  { task with current := some now }

def finish (task : RegularTask) (now : Nat) (again : Bool) : RegularTask :=
  match task.current with
  | none => task
  | some start => { task with past := task.past ++ [⟨start, now, again⟩], current := none }

end RegularTask

/-- The worker after the next timer of a job was submitted, if there is to be one. -/
def Worker.renew {Action : Type} (worker : Worker Action) (timer : Timer Action) : Worker Action :=
  match timer.period with
  | none => worker
  | some period => worker.step (.submit period timer.action (some period))

/-- A worker and the tasks that were registered with it.  The number of a task is its place among
them. -/
structure Rota (Action : Type) where
  worker : Worker (Chore Action)
  tasks : List RegularTask := []
  /-- Whether the task of the job that runs has returned and is to be run again, but the job has
  not submitted the next timer yet. -/
  renewing : Bool := false

namespace Rota

variable {Action : Type}

/-- What may happen next. -/
inductive Step (Action : Type)
  /-- Somebody submits an action that is to be done once, be it the job that runs or anybody
  else. -/
  | after (delay : Nat) (action : Action)
  /-- Somebody registers a task. -/
  | every (period : Nat)
  /-- The clock reaches a time; it never goes back. -/
  | advance (time : Nat)
  | shutDown
  /-- The worker looks at the timetable, unless a job runs. -/
  | look
  /-- What the job runs has returned; if it was a task, it tells whether to run it again. -/
  | finish (again : Bool)
  /-- The job submits the next timer of its task and is over. -/
  | renew

/-- A rota without tasks. -/
def start (resolution : Nat) : Rota Action where
  worker := .start resolution

def now (rota : Rota Action) : Nat :=
  rota.worker.timetable.now

/-- Registers a task and submits its first timer. -/
def register (rota : Rota Action) (period : Nat) : Rota Action :=
  { rota with
    worker := rota.worker.step (.submit period (.run rota.tasks.length) (some period))
    tasks := rota.tasks ++ [{ period, registered := rota.now }] }

/-- The tasks when a job was begun, which may be a run of one of them. -/
def tasksBegun (rota : Rota Action) : Chore Action → List RegularTask
  | .once _ => rota.tasks
  | .run task => rota.tasks.modify task (·.begin rota.now)

/-- The worker looks at the timetable, and may begin a job. -/
def look (rota : Rota Action) : Rota Action :=
  let worker := rota.worker.look
  match rota.worker.running, worker.running with
  | none, some timer => { rota with worker, tasks := rota.tasksBegun timer.action }
  | _, _ => { rota with worker }

/-- What the job runs has returned.  The job goes on only if it has to submit a timer. -/
def finish (rota : Rota Action) (again : Bool) : Rota Action :=
  match rota.worker.running.map Timer.action with
  | none => rota
  | some (.once _) => { rota with worker := rota.worker.finish }
  | some (.run task) =>
      if rota.renewing then rota
      else
        { worker := if again then rota.worker else rota.worker.finish
          tasks := rota.tasks.modify task (·.finish rota.now again)
          renewing := again }

/-- The job that runs submits the next timer of its task and is over. -/
def renew (rota : Rota Action) : Rota Action :=
  match rota.worker.running with
  | none => rota
  | some timer =>
      if rota.renewing then
        { rota with
          worker := (rota.worker.renew timer).finish
          renewing := false }
      else rota

def step (rota : Rota Action) : Step Action → Rota Action
  | .after delay action =>
      { rota with worker := rota.worker.step (.submit delay (.once action) none) }
  | .every period => rota.register period
  | .advance time => { rota with worker := rota.worker.step (.advance time) }
  | .shutDown => { rota with worker := rota.worker.step .shutDown }
  | .look => rota.look
  | .finish again => rota.finish again
  | .renew => rota.renew

def run (rota : Rota Action) (steps : List (Step Action)) : Rota Action :=
  steps.foldl step rota

end Rota
end LoadAtlas
