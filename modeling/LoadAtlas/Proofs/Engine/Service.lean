import LoadAtlas.Proofs.Engine.Closed

/-!
# Services whose engine was closed

The first close goes through whatever handle it comes by, as nothing but a close makes an engine
refuse one.  From then on a run can be told without the engine: the tracker is what the direct
calls make of it, one after the other.  So the load of an entity is what it was at the close and
what was recorded for it directly since, and the intervals that wait for their expiry only become
more.
-/

namespace LoadAtlas

namespace Service

open Engine (Operation DirectCall)

variable {service : Service} {steps : List Step}

/-! ## Runs -/

theorem run_append (service : Service) (first second : List Step) :
    service.run (first ++ second) = (service.run first).run second :=
  List.foldl_append

/-- Whether a step is a close that somebody had a handle for. -/
def closes : Step × Event → Bool
  | (.call _ .close, .returned _) => true
  | _ => false

/-- Whether a step is a direct request of an entity that was recorded. -/
def records (entity : String) : Step × Event → Bool
  | (.direct call, .returned result) => call.records entity result
  | _ => false

/-- The requests of an entity that were recorded directly. -/
def recordings (entity : String) (turns : List (Step × Event)) : Nat :=
  turns.countP (records entity)

/-- The direct calls among some steps. -/
def directCalls (steps : List Step) : List DirectCall :=
  steps.filterMap fun
    | .direct call => some call
    | _ => none

/-! ## Before the close -/

/-- As long as nobody closes it an engine stays open. -/
theorem open_serve (opened : service.engine.closed = false) {step : Step}
    (unclosed : closes (step, (service.serve step).2) = false) :
    (service.serve step).1.engine.closed = false := by
  cases step with
  | clone handle =>
      rw [serve]
      split <;> exact opened
  | call handle operation =>
      rw [serve] at unclosed ⊢
      by_cases there : handle < service.handles
      · rw [if_pos there] at unclosed ⊢
        have different : operation ≠ .close := by
          rintro rfl
          simp [closes] at unclosed
        exact (Engine.closed_operate different).trans opened
      · rw [if_neg there]
        exact opened
  | direct call => exact (Engine.closed_direct call).trans opened
  | wake =>
      rw [serve]
      cases ran : service.engine.runNext? with
      | none => exact opened
      | some later => exact (Engine.closed_runNext? ran).trans opened
  | idle time =>
      rw [serve]
      split <;> exact opened

theorem open_run (opened : service.engine.closed = false)
    (unclosed : ∀ turn ∈ service.trace steps, closes turn = false) :
    (service.run steps).engine.closed = false := by
  induction steps generalizing service with
  | nil => exact opened
  | cons step steps induction =>
      rw [trace, List.forall_mem_cons] at unclosed
      exact induction (open_serve opened unclosed.1) unclosed.2

/-! ## After the close -/

/-- What a step can do once the engine is closed. -/
structure Quiet (service : Service) (step : Step) : Prop where
  closed : (service.serve step).1.engine.Closed
  rests : (service.serve step).2 ≠ .worked
  tracker : (service.serve step).1.engine.tracker =
    (directCalls [step]).foldl DirectCall.effect service.engine.tracker

section Closed

variable (closed : service.engine.Closed)

include closed

/-- Whoever calls a closed engine is refused, and nothing changes. -/
theorem serve_call {handle : Nat} (there : handle < service.handles) (operation : Operation) :
    service.serve (.call handle operation) =
      (service, .returned (.refused .engineClosed)) := by
  rw [serve, if_pos there, Engine.operate_of_closed closed.isClosed]

/-- A step that neither works nor calls past the engine leaves the engine as it is. -/
theorem quiet_of_unchanged {step : Step} (same : (service.serve step).1.engine = service.engine)
    (rests : (service.serve step).2 ≠ .worked) (indirect : directCalls [step] = []) :
    service.Quiet step where
  closed := same ▸ closed
  rests := rests
  tracker := by rw [same, indirect, List.foldl_nil]

theorem quiet_of_closed (step : Step) : service.Quiet step := by
  cases step with
  | clone handle =>
      refine quiet_of_unchanged closed ?_ ?_ rfl <;> rw [serve] <;> split <;> simp
  | call handle operation =>
      by_cases there : handle < service.handles
      · have refused := serve_call closed there operation
        exact quiet_of_unchanged closed (by rw [refused]) (by simp [refused]) rfl
      · have ignored : service.serve (.call handle operation) = (service, .nothing) := by
          rw [serve, if_neg there]
        exact quiet_of_unchanged closed (by rw [ignored]) (by simp [ignored]) rfl
  | direct call =>
      have later : (service.serve (.direct call)).1.engine =
          { service.engine with tracker := call.effect service.engine.tracker } :=
        closed.direct call
      exact ⟨later ▸ closed.update _, nofun, congrArg Engine.tracker later⟩
  | wake =>
      have slept : service.serve .wake = (service, .nothing) := by rw [serve, closed.runNext?]
      exact quiet_of_unchanged closed (by rw [slept]) (by simp [slept]) rfl
  | idle time =>
      -- No timer waits, so the clock may reach any time.
      have idled : service.serve (.idle time) =
          ({ service with engine := service.engine.idleUntil time }, .nothing) := by
        rw [serve, closed.nothing]
        rfl
      refine ⟨?_, ?_, ?_⟩ <;> rw [idled]
      · exact closed.idleUntil time
      · exact nofun
      · rfl

theorem load_serve (step : Step) (entity : String) :
    (service.serve step).1.engine.tracker.load entity = service.engine.tracker.load entity +
      if records entity (step, (service.serve step).2) then 1 else 0 := by
  rw [(quiet_of_closed closed step).tracker]
  cases step with
  | direct call => exact Engine.load_effect service.engine call entity
  | _ => rfl

theorem pendingExpirations_le_serve (step : Step) :
    service.engine.tracker.pendingExpirations ≤
      (service.serve step).1.engine.tracker.pendingExpirations := by
  rw [(quiet_of_closed closed step).tracker]
  cases step with
  | direct call => exact Engine.pendingExpirations_le_effect service.engine.tracker call
  | _ => exact le_rfl

theorem closed_run (steps : List Step) : (service.run steps).engine.Closed := by
  induction steps generalizing service with
  | nil => exact closed
  | cons step steps induction => exact induction (quiet_of_closed closed step).closed

theorem rests_run (steps : List Step) : ∀ turn ∈ service.trace steps, turn.2 ≠ .worked := by
  induction steps generalizing service with
  | nil => simp [trace]
  | cons step steps induction =>
      have quiet := quiet_of_closed closed step
      rw [trace, List.forall_mem_cons]
      exact ⟨quiet.rests, induction quiet.closed⟩

theorem tracker_run (steps : List Step) : (service.run steps).engine.tracker =
    (directCalls steps).foldl DirectCall.effect service.engine.tracker := by
  induction steps generalizing service with
  | nil => rfl
  | cons step steps induction =>
      have quiet := quiet_of_closed closed step
      have split : directCalls (step :: steps) = directCalls [step] ++ directCalls steps :=
        List.filterMap_append (l := [step])
      rw [split, List.foldl_append, ← quiet.tracker]
      exact induction quiet.closed

theorem load_run (steps : List Step) (entity : String) :
    (service.run steps).engine.tracker.load entity =
      service.engine.tracker.load entity + recordings entity (service.trace steps) := by
  induction steps generalizing service with
  | nil => rfl
  | cons step steps induction =>
      have rest := induction (quiet_of_closed closed step).closed
      rw [load_serve closed step entity, Nat.add_assoc] at rest
      rw [trace, recordings, List.countP_cons, Nat.add_comm (List.countP _ _)]
      exact rest

theorem pendingExpirations_le_run (steps : List Step) :
    service.engine.tracker.pendingExpirations ≤
      (service.run steps).engine.tracker.pendingExpirations := by
  induction steps generalizing service with
  | nil => exact le_rfl
  | cons step steps induction =>
      exact (pendingExpirations_le_serve closed step).trans
        (induction (quiet_of_closed closed step).closed)

end Closed

/-- What is left of a service when its engine has been closed, whatever happens later. -/
structure Frozen (before closed : Service) : Prop where
  /-- Everybody is refused, and nothing changes. -/
  refuses : ∀ (later : List Step) (handle : Nat) (operation : Operation),
    handle < (closed.run later).handles → (closed.run later).serve (.call handle operation) =
      (closed.run later, .returned (.refused .engineClosed))
  /-- No interval expires, no territory is swept and nothing is rotated, unless it is asked for. -/
  rests : ∀ later : List Step, ∀ turn ∈ closed.trace later, turn.2 ≠ .worked
  /-- Nothing but the direct calls changes the counters and the atlas. -/
  tracker : ∀ later : List Step, (closed.run later).engine.tracker =
    (directCalls later).foldl DirectCall.effect before.engine.tracker
  load : ∀ (later : List Step) (entity : String), (closed.run later).engine.tracker.load entity =
    before.engine.tracker.load entity + recordings entity (closed.trace later)
  pendingExpirations : ∀ earlier later : List Step,
    (closed.run earlier).engine.tracker.pendingExpirations ≤
      (closed.run (earlier ++ later)).engine.tracker.pendingExpirations

theorem frozen_of_closed {before : Service} (closed : service.engine.Closed)
    (same : service.engine.tracker = before.engine.tracker) : Frozen before service where
  refuses later _ operation there := serve_call (closed_run closed later) there operation
  rests := rests_run closed
  tracker later := same ▸ tracker_run closed later
  load later entity := same ▸ load_run closed later entity
  pendingExpirations earlier later := by
    rw [run_append]
    exact pendingExpirations_le_run (closed_run closed earlier) later

/-- The first close of an engine succeeds, whoever has a handle for it, and freezes the engine. -/
theorem frozen_of_start {resolution : Nat} {config : Config} {engine : Engine}
    (started : Engine.startAt resolution config = .ok engine) {before : List Step}
    (unclosed : ∀ turn ∈ trace { engine } before, closes turn = false) {handle : Nat}
    (there : handle < (run { engine } before).handles) :
    ∃ closed : Service, (run { engine } before).serve (.call handle .close) =
        (closed, .returned .done) ∧ Frozen (run { engine } before) closed := by
  obtain ⟨_, _, orderly, _⟩ := Engine.orderly_of_startAt started
  have opened : (run { engine } before).engine.closed = false :=
    open_run orderly.isOpen unclosed
  refine ⟨{ run { engine } before with engine := (run { engine } before).engine.shut }, ?_,
    frozen_of_closed (Engine.closed_shut _) rfl⟩
  rw [serve, if_pos there, Engine.operate_close opened]

/-- The engine is closed by its second handle, after a request that came past it. -/
theorem frozen_cloned : ∃ engine, Engine.startAt 1 Config.standard = .ok engine ∧
    ∃ closed : Service,
      (run { engine } [.clone 0, .direct (.record "api" ⟨2.35, 48.85⟩)]).serve (.call 1 .close) =
          (closed, .returned .done) ∧
        Frozen (run { engine } [.clone 0, .direct (.record "api" ⟨2.35, 48.85⟩)]) closed := by
  obtain ⟨engine, started⟩ : ∃ engine, Engine.startAt 1 Config.standard = .ok engine := ⟨_, rfl⟩
  refine ⟨engine, started, frozen_of_start started (fun turn member => ?_) ?_⟩
  · simp only [trace, List.mem_cons, List.not_mem_nil, or_false] at member
    rcases member with rfl | rfl <;> rfl
  · exact Nat.one_lt_two

end Service

end LoadAtlas
