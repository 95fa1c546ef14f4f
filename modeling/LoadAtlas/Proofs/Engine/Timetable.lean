import LoadAtlas.Proofs.Table.Sum
import LoadAtlas.Timetable
import Mathlib.Algebra.BigOperators.Group.List.Basic

/-!
# Timers of a timetable

The next timer is one of those that wait, and none waits for an earlier time.  Timers are told
apart by their numbers, so the timer that runs is withdrawn and no other.  Whatever an action
submits is added behind what waits already.

Timers are weighed by their deadlines and actions: a submission adds its weight and a withdrawal
takes it away.
-/

namespace LoadAtlas

theorem Timer.before_iff {Action : Type} {first second : Timer Action} :
    first.before second = true ↔ first.deadline < second.deadline ∨
      first.deadline = second.deadline ∧ first.number < second.number := by
  simp [Timer.before]

namespace Timetable

variable {Action State : Type} {timetable : Timetable Action} {timer : Timer Action}

/-! ## The next timer -/

section Earliest

variable {timers : List (Timer Action)}

theorem mem_of_earliest? (found : earliest? timers = some timer) : timer ∈ timers := by
  induction timers generalizing timer with
  | nil => simp [earliest?] at found
  | cons first timers induction =>
      cases rest : earliest? timers with
      | none =>
          obtain rfl : first = timer := by simpa [earliest?, rest] using found
          exact List.mem_cons_self
      | some other =>
          simp only [earliest?, rest] at found
          split at found
          · exact List.mem_cons_of_mem _ (induction (rest.trans found))
          · obtain rfl := Option.some.inj found
            exact List.mem_cons_self

theorem earliest?_eq_none_iff : earliest? timers = none ↔ timers = [] := by
  cases timers with
  | nil => simp [earliest?]
  | cons first timers =>
      simp only [earliest?, reduceCtorEq, iff_false]
      split
      · simp
      · split <;> simp

/-- No timer is before the earliest one. -/
theorem not_before_of_earliest? (found : earliest? timers = some timer) :
    ∀ other ∈ timers, ¬ other.before timer = true := by
  induction timers generalizing timer with
  | nil => simp
  | cons first timers induction =>
      cases rest : earliest? timers with
      | none =>
          obtain rfl : first = timer := by simpa [earliest?, rest] using found
          rw [earliest?_eq_none_iff.mp rest]
          simp [Timer.before_iff]
      | some other =>
          have least := induction rest
          simp only [earliest?, rest] at found
          rw [List.forall_mem_cons]
          by_cases earlier : other.before first = true
          · rw [if_pos earlier] at found
            obtain rfl := Option.some.inj found
            exact ⟨fun later => by simp only [Timer.before_iff] at earlier later; omega, least⟩
          · rw [if_neg earlier] at found
            obtain rfl := Option.some.inj found
            refine ⟨by simp [Timer.before_iff], fun later member sooner => ?_⟩
            have notSooner := least later member
            simp only [Timer.before_iff] at earlier notSooner sooner
            omega

/-- No timer has an earlier deadline than the earliest one. -/
theorem deadline_le_of_earliest? (found : earliest? timers = some timer)
    (other : Timer Action) (member : other ∈ timers) : timer.deadline ≤ other.deadline := by
  have notSooner := not_before_of_earliest? found other member
  rw [Timer.before_iff] at notSooner
  omega

end Earliest

/-! ## Numbers -/

/-- Timers are told apart by numbers that were given out before. -/
structure Numbered (timetable : Timetable Action) : Prop where
  nodup : (timetable.timers.map Timer.number).Nodup
  given : ∀ timer ∈ timetable.timers, timer.number < timetable.nextNumber

/-- The weight of all timers that wait. -/
def weigh (weight : Nat → Action → Nat) (timetable : Timetable Action) : Nat :=
  (timetable.timers.map fun timer => weight timer.deadline timer.action).sum

theorem Numbered.withdraw (numbered : timetable.Numbered) (timer : Timer Action) :
    (timetable.withdraw timer).Numbered :=
  ⟨numbered.nodup.sublist (List.filter_sublist.map Timer.number),
    fun other member => numbered.given other (List.mem_of_mem_filter member)⟩

/-- The timer that is withdrawn and those that stay are all timers. -/
theorem Numbered.perm_withdraw (numbered : timetable.Numbered)
    (member : timer ∈ timetable.timers) :
    timetable.timers.Perm (timer :: (timetable.withdraw timer).timers) := by
  obtain ⟨before, after, split⟩ := List.append_of_mem member
  have distinct := numbered.nodup
  rw [split, List.map_append, List.map_cons] at distinct
  have apart := List.perm_middle.nodup_iff.mp distinct
  rw [List.nodup_cons, ← List.map_append] at apart
  have stays (other : Timer Action) (listed : other ∈ before ++ after) :
      other.number ≠ timer.number := fun same =>
    apart.1 (same ▸ List.mem_map_of_mem listed)
  have kept : (timetable.withdraw timer).timers = before ++ after := by
    simp only [Timetable.withdraw, split, List.filter_append, List.filter_cons, ne_eq, not_true,
      decide_false, Bool.false_eq_true, ↓reduceIte]
    rw [← List.filter_append, List.filter_eq_self]
    exact fun other listed => decide_eq_true (stays other listed)
  rw [kept, split]
  exact List.perm_middle

theorem Numbered.mem_withdraw (numbered : timetable.Numbered) (member : timer ∈ timetable.timers)
    {other : Timer Action} (listed : other ∈ timetable.timers) (different : other ≠ timer) :
    other ∈ (timetable.withdraw timer).timers :=
  List.mem_of_ne_of_mem different ((numbered.perm_withdraw member).mem_iff.mp listed)

theorem Numbered.weigh_withdraw (numbered : timetable.Numbered) (member : timer ∈ timetable.timers)
    (weight : Nat → Action → Nat) : (timetable.withdraw timer).weigh weight +
      weight timer.deadline timer.action = timetable.weigh weight := by
  have sum := ((numbered.perm_withdraw member).map
    fun timer => weight timer.deadline timer.action).sum_nat
  rw [weigh, weigh, sum, List.map_cons, List.sum_cons]
  exact Nat.add_comm _ _

/-! ## Submissions -/

/-- Something to be done after a delay, once or again and again. -/
structure Submission (Action : Type) where
  delay : Nat
  action : Action
  period : Option Nat := none

def submitAll (timetable : Timetable Action) (submissions : List (Submission Action)) :
    Timetable Action :=
  submissions.foldl
    (fun timetable submission =>
      timetable.submit submission.delay submission.action submission.period)
    timetable

theorem submitAll_append (timetable : Timetable Action)
    (first second : List (Submission Action)) :
    timetable.submitAll (first ++ second) = (timetable.submitAll first).submitAll second :=
  List.foldl_append

/-- What a timer waits for, with its deadline for a delay. -/
def plan (timer : Timer Action) : Submission Action :=
  ⟨timer.deadline, timer.action, timer.period⟩

/-- A submission with the time at which it is due instead of its delay. -/
def Submission.due (submission : Submission Action) (timetable : Timetable Action) :
    Submission Action :=
  { submission with delay := timetable.now + submission.delay * timetable.resolution }

theorem Numbered.submit (numbered : timetable.Numbered) (delay : Nat) (action : Action)
    (period : Option Nat) : (timetable.submit delay action period).Numbered := by
  cases stopped : timetable.stopped with
  | true => simpa [Timetable.submit, stopped] using numbered
  | false =>
      simp only [Timetable.submit, stopped, Bool.false_eq_true, ↓reduceIte]
      refine ⟨?_, fun timer member => ?_⟩
      · rw [List.map_append, List.nodup_append]
        refine ⟨numbered.nodup, by simp, fun number before new fresh => ?_⟩
        obtain ⟨timer, member, rfl⟩ := List.mem_map.mp before
        rw [List.map_singleton, List.mem_singleton] at fresh
        exact fresh ▸ (numbered.given timer member).ne
      · rcases List.mem_append.mp member with before | new
        · exact (numbered.given timer before).trans (Nat.lt_succ_self _)
        · rw [List.mem_singleton.mp new]
          exact Nat.lt_succ_self _

theorem Numbered.submitAll (numbered : timetable.Numbered)
    (submissions : List (Submission Action)) : (timetable.submitAll submissions).Numbered :=
  List.foldlRecOn (motive := Numbered) submissions _ numbered
    fun _ known submission _ => known.submit submission.delay submission.action submission.period

/-- A timetable that was not stopped gets one timer for each submission, and nothing else
changes. -/
theorem submitAll_of_going (going : timetable.stopped = false)
    (submissions : List (Submission Action)) : ∃ fresh,
      timetable.submitAll submissions = { timetable with
        timers := timetable.timers ++ fresh
        nextNumber := timetable.nextNumber + submissions.length } ∧
      fresh.map plan = submissions.map fun submission => submission.due timetable := by
  induction submissions generalizing timetable with
  | nil => exact ⟨[], by simp [submitAll], rfl⟩
  | cons submission submissions induction =>
      let first : Timer Action := ⟨timetable.now + submission.delay * timetable.resolution,
        timetable.nextNumber, submission.action, submission.period⟩
      let next : Timetable Action := { timetable with
        timers := timetable.timers ++ [first]
        nextNumber := timetable.nextNumber + 1 }
      have submitted : timetable.submit submission.delay submission.action submission.period =
          next := by
        simp [submit, going, next, first]
      have stillGoing : next.stopped = false := going
      obtain ⟨fresh, outcome, plans⟩ := induction stillGoing
      refine ⟨first :: fresh, ?_, congrArg (plan first :: ·) plans⟩
      rw [submitAll, List.foldl_cons, submitted]
      refine outcome.trans ?_
      simp [next, Nat.add_assoc, Nat.add_comm 1]

/-- A timetable that was stopped takes nothing. -/
theorem submitAll_of_stopped (stopped : timetable.stopped = true)
    (submissions : List (Submission Action)) : timetable.submitAll submissions = timetable := by
  refine List.foldlRecOn (motive := (· = timetable)) submissions _ rfl fun after same _ _ => ?_
  rw [same, submit, if_pos stopped]

/-- The clock goes on as before. -/
theorem clock_submitAll (timetable : Timetable Action) (submissions : List (Submission Action)) :
    (timetable.submitAll submissions).now = timetable.now ∧
      (timetable.submitAll submissions).resolution = timetable.resolution ∧
      (timetable.submitAll submissions).stopped = timetable.stopped := by
  refine List.foldlRecOn (motive := fun after : Timetable Action => after.now = timetable.now ∧
    after.resolution = timetable.resolution ∧ after.stopped = timetable.stopped) submissions _
    ⟨rfl, rfl, rfl⟩ fun after known submission _ => ?_
  rw [submit]
  split
  · exact known
  · exact known

/-- A submission adds its weight. -/
theorem weigh_submitAll (going : timetable.stopped = false) (weight : Nat → Action → Nat)
    (submissions : List (Submission Action)) :
    (timetable.submitAll submissions).weigh weight = timetable.weigh weight +
      (submissions.map fun submission =>
        weight (timetable.now + submission.delay * timetable.resolution)
          submission.action).sum := by
  obtain ⟨fresh, outcome, plans⟩ := submitAll_of_going going submissions
  have weights := congrArg
    (List.map fun submission : Submission Action => weight submission.delay submission.action) plans
  rw [List.map_map, List.map_map] at weights
  rw [outcome, weigh, weigh, List.map_append, List.sum_append]
  exact congrArg (_ + List.sum ·) weights

theorem exists_timer_of_submission (going : timetable.stopped = false)
    {submissions : List (Submission Action)} {submission : Submission Action}
    (listed : submission ∈ submissions) :
    ∃ timer ∈ (timetable.submitAll submissions).timers, plan timer = submission.due timetable := by
  obtain ⟨fresh, outcome, plans⟩ := submitAll_of_going going submissions
  have planned := List.mem_map_of_mem (f := fun submission => submission.due timetable) listed
  rw [← plans] at planned
  obtain ⟨timer, new, plan⟩ := List.mem_map.mp planned
  rw [outcome]
  exact ⟨timer, List.mem_append_right _ new, plan⟩

theorem mem_submitAll_of_mem (going : timetable.stopped = false)
    (submissions : List (Submission Action)) (member : timer ∈ timetable.timers) :
    timer ∈ (timetable.submitAll submissions).timers := by
  obtain ⟨fresh, outcome, _⟩ := submitAll_of_going going submissions
  rw [outcome]
  exact List.mem_append_left fresh member

theorem mem_submitAll (going : timetable.stopped = false)
    {submissions : List (Submission Action)}
    (member : timer ∈ (timetable.submitAll submissions).timers) : timer ∈ timetable.timers ∨
      ∃ submission ∈ submissions, submission.due timetable = plan timer := by
  obtain ⟨fresh, outcome, plans⟩ := submitAll_of_going going submissions
  rw [outcome] at member
  rcases List.mem_append.mp member with before | new
  · exact .inl before
  · have planned := List.mem_map_of_mem (f := plan) new
    rw [plans] at planned
    exact .inr (List.mem_map.mp planned)

/-! ## Running a timer -/

/-- The next run of a timer, if there is one. -/
def renewal (timer : Timer Action) (again : Bool) : List (Submission Action) :=
  match timer.period with
  | some period => if again then [⟨period, timer.action, some period⟩] else []
  | none => []

theorem eq_of_mem_renewal {again : Bool} {submission : Submission Action}
    (listed : submission ∈ renewal timer again) :
    ∃ period, timer.period = some period ∧ submission = ⟨period, timer.action, some period⟩ := by
  cases periodic : timer.period with
  | none => simp [renewal, periodic] at listed
  | some period =>
      cases again with
      | false => simp [renewal, periodic] at listed
      | true => exact ⟨period, rfl, by simpa [renewal, periodic] using listed⟩

theorem settle_eq_submitAll (timetable : Timetable Action) (timer : Timer Action)
    (outcome : Outcome State Action) : timetable.settle timer outcome =
      timetable.submitAll (outcome.submissions.map (fun submission =>
        ⟨submission.1, submission.2, none⟩) ++ renewal timer outcome.again) := by
  have submitted : outcome.submissions.foldl
      (fun timetable submission => timetable.after submission.1 submission.2) timetable =
        timetable.submitAll (outcome.submissions.map fun submission =>
          ⟨submission.1, submission.2, none⟩) := by
    rw [submitAll, List.foldl_map]
    rfl
  rw [submitAll_append, ← submitted, settle, renewal]
  cases timer.period with
  | none => rfl
  | some period => cases outcome.again <;> rfl

/-- The timer that runs next waits for no later time than any other. -/
theorem exists_of_runNext? {perform : Action → State → Outcome State Action} {state : State}
    {result : Timetable Action × State}
    (ran : timetable.runNext? perform state = some result) :
    ∃ timer ∈ timetable.timers, (∀ other ∈ timetable.timers, timer.deadline ≤ other.deadline) ∧
      run perform timer (timetable.advance timer.deadline) state = result := by
  obtain ⟨timer, next, outcome⟩ := Option.map_eq_some_iff.mp ran
  exact ⟨timer, mem_of_earliest? next, deadline_le_of_earliest? next, outcome⟩

theorem runNext?_eq_none_iff {perform : Action → State → Outcome State Action} {state : State} :
    timetable.runNext? perform state = none ↔ timetable.timers = [] := by
  rw [runNext?, Option.map_eq_none_iff, next?, earliest?_eq_none_iff]

end Timetable

end LoadAtlas
