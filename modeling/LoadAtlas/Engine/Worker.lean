import LoadAtlas.Timetable

/-!
# Workers

A worker runs the actions of a timetable one at a time.  While an action runs the timetable is
open to everybody: the action and others submit more, the clock goes on, and somebody may shut the
timetable down.  Between two actions the worker looks at the timetable.  If it was shut down, the
worker drops what still waits and leaves for good; if the time of the next timer has come, the
worker begins it; and else it waits.

The timetable keeps its timers by urgency.  Of two timers the one with the earlier deadline is
the greater, and of two with one deadline the one submitted first; the next timer is the greatest.
-/

namespace LoadAtlas

/-- How urgent a timer is, compared with another one. -/
def Timer.urgency {Action : Type} (first second : Timer Action) : Ordering :=
  (compare second.deadline first.deadline).then (compare second.number first.number)

/-- Takes nothing more; what waits is still there. -/
def Timetable.shut {Action : Type} (timetable : Timetable Action) : Timetable Action :=
  { timetable with stopped := true }

/-- A timetable and the one who runs its actions, with the timers that were begun, that were ended
and that were dropped so far, each in its order. -/
structure Worker (Action : Type) where
  timetable : Timetable Action
  /-- The timer whose action runs. -/
  running : Option (Timer Action) := none
  /-- Whether the worker has left. -/
  gone : Bool := false
  begun : List (Timer Action) := []
  ended : List (Timer Action) := []
  dropped : List (Timer Action) := []

namespace Worker

variable {Action : Type}

/-- What may happen next. -/
inductive Step (Action : Type)
  /-- Somebody submits an action, be it the action that runs or anybody else. -/
  | submit (delay : Nat) (action : Action) (period : Option Nat)
  /-- The clock reaches a time; it never goes back. -/
  | advance (time : Nat)
  | shutDown
  /-- The worker looks at the timetable, unless an action runs. -/
  | look
  /-- The action that runs has ended. -/
  | finish

/-- A worker with an empty timetable. -/
def start (resolution : Nat) : Worker Action where
  timetable := { resolution := resolution }

/-- Begins the next timer if its time has come. -/
def beginNext (worker : Worker Action) : Worker Action :=
  match worker.timetable.next? with
  | none => worker
  | some timer =>
      if worker.timetable.now < timer.deadline then worker
      else
        { worker with
          timetable := worker.timetable.withdraw timer
          running := some timer
          begun := worker.begun ++ [timer] }

/-- Drops what waits and leaves. -/
def leave (worker : Worker Action) : Worker Action :=
  { worker with
    timetable := worker.timetable.stop
    gone := true
    dropped := worker.timetable.timers }

def look (worker : Worker Action) : Worker Action :=
  if worker.gone || worker.running.isSome then worker
  else if worker.timetable.stopped then worker.leave
  else worker.beginNext

def finish (worker : Worker Action) : Worker Action :=
  match worker.running with
  | none => worker
  | some timer => { worker with running := none, ended := worker.ended ++ [timer] }

def step (worker : Worker Action) : Step Action → Worker Action
  | .submit delay action period =>
      { worker with timetable := worker.timetable.submit delay action period }
  | .advance time => { worker with timetable := worker.timetable.advance time }
  | .shutDown => { worker with timetable := worker.timetable.shut }
  | .look => worker.look
  | .finish => worker.finish

def run (worker : Worker Action) (steps : List (Step Action)) : Worker Action :=
  steps.foldl step worker

end Worker
end LoadAtlas
