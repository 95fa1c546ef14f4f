/-!
# Timetables

A timetable holds actions that wait for their time on a logical clock.  Submissions are
numbered; the next action is the one with the least deadline and, among equal deadlines, the
one submitted first.  A periodic action is submitted again after each run, one period after
the time of that run, so two runs of it never overlap.  Delays are in milliseconds; the clock
may tick more often than that.

Actions take no time.  A stopped timetable has dropped what was waiting and takes nothing more.
-/

namespace LoadAtlas

/-- An action that waits for its time. -/
structure Timer (Action : Type) where
  deadline : Nat
  number : Nat
  action : Action
  /-- The time between runs, for an action that is run again and again. -/
  period : Option Nat

def Timer.before {Action : Type} (first second : Timer Action) : Bool :=
  first.deadline < second.deadline ||
    first.deadline == second.deadline && first.number < second.number

/-- Actions that wait for their time. -/
structure Timetable (Action : Type) where
  now : Nat := 0
  timers : List (Timer Action) := []
  nextNumber : Nat := 0
  stopped : Bool := false
  /-- Ticks of the clock in a millisecond. -/
  resolution : Nat := 1

/-- What running an action leaves behind. -/
structure Outcome (State Action : Type) where
  state : State
  /-- Actions to be run once, each after its delay. -/
  submissions : List (Nat × Action) := []
  /-- Whether a periodic action is to be run again. -/
  again : Bool := true

namespace Timetable

variable {Action State : Type}

/-- The timetable with one more timer, unless it was stopped. -/
def submit (timetable : Timetable Action) (delay : Nat) (action : Action)
    (period : Option Nat) : Timetable Action :=
  if timetable.stopped then timetable
  else
    { timetable with
      timers := timetable.timers ++
        [⟨timetable.now + delay * timetable.resolution, timetable.nextNumber, action, period⟩]
      nextNumber := timetable.nextNumber + 1 }

def after (timetable : Timetable Action) (delay : Nat) (action : Action) : Timetable Action :=
  timetable.submit delay action none

def every (timetable : Timetable Action) (period : Nat) (action : Action) :
    Timetable Action :=
  timetable.submit period action (some period)

def pending (timetable : Timetable Action) : Nat :=
  timetable.timers.length

/-- Drops what is waiting and takes nothing more. -/
def stop (timetable : Timetable Action) : Timetable Action :=
  { timetable with timers := [], stopped := true }

def earliest? : List (Timer Action) → Option (Timer Action)
  | [] => none
  | timer :: timers =>
      match earliest? timers with
      | none => some timer
      | some other => if other.before timer then some other else some timer

def next? (timetable : Timetable Action) : Option (Timer Action) :=
  earliest? timetable.timers

/-- Sets the clock forward; it never goes back. -/
def advance (timetable : Timetable Action) (time : Nat) : Timetable Action :=
  { timetable with now := max timetable.now time }

def withdraw (timetable : Timetable Action) (timer : Timer Action) : Timetable Action :=
  { timetable with timers := timetable.timers.filter fun other => other.number ≠ timer.number }

/-- The timetable after what a timer's action left behind: first the action's own submissions,
then its next run. -/
def settle (timetable : Timetable Action) (timer : Timer Action)
    (outcome : Outcome State Action) : Timetable Action :=
  let submitted := outcome.submissions.foldl
    (fun timetable submission => timetable.after submission.1 submission.2) timetable
  match timer.period with
  | some period => if outcome.again then submitted.every period timer.action else submitted
  | none => submitted

/-- Runs one timer: its action acts on the state, at the present time. -/
def run (perform : Action → State → Outcome State Action) (timer : Timer Action)
    (timetable : Timetable Action) (state : State) : Timetable Action × State :=
  let outcome := perform timer.action state
  ((timetable.withdraw timer).settle timer outcome, outcome.state)

/-- Waits for the next timer and runs it; there may be none. -/
def runNext? (perform : Action → State → Outcome State Action)
    (timetable : Timetable Action) (state : State) : Option (Timetable Action × State) :=
  timetable.next?.map fun timer =>
    run perform timer (timetable.advance timer.deadline) state

end Timetable
end LoadAtlas
