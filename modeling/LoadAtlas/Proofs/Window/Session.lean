import LoadAtlas.Proofs.Atlas.Share
import LoadAtlas.Proofs.Window.Counter
import LoadAtlas.Window.Session

/-!
# Entities of a session

An entity's share of a session is its territory, its counter and the intervals of it that wait.
Calls that name other entities, and calls about overrides, do not touch it.  A rotation and a
merge of everything treat every share on its own.  So a session from which all other calls are
left out goes the same way for the entity, and the entity's calls are answered in the same way,
apart from what an override shows while it is set.
-/

namespace LoadAtlas

/-! ## The waiting intervals of one entity -/

namespace ClosedInterval

variable {entity : String} {index place : Nat} {waiting : List ClosedInterval}
  {closed : ClosedInterval}

def waitingOf (entity : String) (waiting : List ClosedInterval) : List ClosedInterval :=
  waiting.filter fun closed => closed.entity = entity

theorem waitingOf_append (entity : String) (first second : List ClosedInterval) :
    waitingOf entity (first ++ second) = waitingOf entity first ++ waitingOf entity second :=
  List.filter_append first second

theorem waitingOf_cons (entity : String) (closed : ClosedInterval)
    (waiting : List ClosedInterval) : waitingOf entity (closed :: waiting) =
      if closed.entity = entity then closed :: waitingOf entity waiting
      else waitingOf entity waiting := by
  simp [waitingOf, List.filter_cons]

/-- Taking out an interval of another entity changes nothing for this one. -/
theorem waitingOf_eraseIdx_of_ne (found : waiting[place]? = some closed)
    (different : closed.entity ≠ entity) :
    waitingOf entity (waiting.eraseIdx place) = waitingOf entity waiting := by
  induction waiting generalizing place with
  | nil => simp at found
  | cons first waiting induction =>
      cases place with
      | zero =>
          obtain rfl : first = closed := by simpa using found
          rw [List.eraseIdx_cons_zero, waitingOf_cons, if_neg different]
      | succ place =>
          have rest := induction (List.getElem?_cons_succ ▸ found)
          rw [List.eraseIdx_cons_succ, waitingOf_cons, waitingOf_cons, rest]

theorem place?_eq_none_iff :
    place? entity index waiting = none ↔ (waitingOf entity waiting)[index]? = none := by
  induction waiting generalizing index with
  | nil => simp [place?, waitingOf]
  | cons first waiting induction =>
      rw [waitingOf_cons]
      by_cases here : first.entity = entity
      · cases index with
        | zero => simp [place?, here]
        | succ index => simp only [place?, here, ↓reduceIte, Option.map_eq_none_iff, induction,
            List.getElem?_cons_succ]
      · simp only [place?, here, ↓reduceIte, Option.map_eq_none_iff, induction]

/-- An interval that is found by its number among those of its entity is the one that waits at
its place. -/
theorem exists_of_place? (placed : place? entity index waiting = some place) :
    ∃ closed, closed.entity = entity ∧ waiting[place]? = some closed ∧
      (waitingOf entity waiting)[index]? = some closed ∧
      waitingOf entity (waiting.eraseIdx place) = (waitingOf entity waiting).eraseIdx index := by
  induction waiting generalizing index place with
  | nil => simp [place?] at placed
  | cons first waiting induction =>
      rw [waitingOf_cons]
      by_cases here : first.entity = entity
      · cases index with
        | zero =>
            obtain rfl : 0 = place := by simpa [place?, here] using placed
            exact ⟨first, here, rfl, by simp [here], by simp [here]⟩
        | succ index =>
            simp only [place?, here, ↓reduceIte, Option.map_eq_some_iff] at placed
            obtain ⟨behind, placed, rfl⟩ := placed
            obtain ⟨closed, named, atPlace, atIndex, rest⟩ := induction placed
            refine ⟨closed, named, by simpa using atPlace, by simpa [here] using atIndex, ?_⟩
            rw [List.eraseIdx_cons_succ, waitingOf_cons, if_pos here, if_pos here,
              List.eraseIdx_cons_succ, rest]
      · simp only [place?, here, ↓reduceIte, Option.map_eq_some_iff] at placed
        obtain ⟨behind, placed, rfl⟩ := placed
        obtain ⟨closed, named, atPlace, atIndex, rest⟩ := induction placed
        refine ⟨closed, named, by simpa using atPlace, by simpa [here] using atIndex, ?_⟩
        rw [List.eraseIdx_cons_succ, waitingOf_cons, if_neg here, if_neg here, rest]

end ClosedInterval

open ClosedInterval (waitingOf)

namespace Tracker

variable (tracker : Tracker) (entity : String)

theorem getElem?_count (name : String) (address : Bucket.Address) :
    (tracker.count name address).counters[entity]? = if name = entity then
        some { window := (tracker.counters[entity]?.getD {}).window.add address.key
                 address.location 1
               interval := (tracker.counters[entity]?.getD {}).interval.add address.key
                 address.location 1 }
      else tracker.counters[entity]? := by
  by_cases here : name = entity
  · subst here
    simp [count, Std.ExtTreeMap.getD_eq_getD_getElem?]
  · simp [count, Std.ExtTreeMap.getElem?_insert, here]

theorem getElem?_forget (closed : ClosedInterval) :
    (tracker.forget closed).counters[entity]? = if closed.entity = entity then
        tracker.counters[entity]?.map fun counter =>
          { counter with window := counter.window.subtract closed.requests }
      else tracker.counters[entity]? := by
  by_cases here : closed.entity = entity
  · subst here
    simp [forget]
  · simp [forget, Std.ExtTreeMap.getElem?_modify, here]

private theorem filter_toList {Value : Type} (table : Std.ExtTreeMap String Value)
    (entity : String) : table.toList.filter (fun entry => entry.1 = entity) =
      (table[entity]?.map fun value => (entity, value)).toList := by
  cases found : table[entity]? with
  | none =>
      rw [Option.map_none, Option.toList_none, List.filter_eq_nil_iff]
      rintro ⟨name, value⟩ listed here
      obtain rfl : name = entity := by simpa using here
      have present := Std.ExtTreeMap.mem_toList_iff_getElem?_eq_some.mp listed
      simp [found] at present
  | some value =>
      obtain ⟨before, after, split⟩ :=
        List.append_of_mem (Std.ExtTreeMap.mem_toList_iff_getElem?_eq_some.mpr found)
      have distinct := Table.nodup_map_fst_toList table
      rw [split, List.map_append, List.map_cons] at distinct
      have apart := List.perm_middle.nodup_iff.mp distinct
      rw [List.nodup_cons, ← List.map_append] at apart
      have others (entry : String × Value) (listed : entry ∈ before ++ after) :
          entry.1 ≠ entity := fun here => apart.1 (List.mem_map.mpr ⟨entry, listed, here⟩)
      have none : (before ++ after).filter (fun entry => entry.1 = entity) = [] :=
        List.filter_eq_nil_iff.mpr fun entry listed => by simpa using others entry listed
      rw [List.filter_append, List.append_eq_nil_iff] at none
      simp [split, List.filter_append, none]

/-- A rotation closes the interval of an entity if it saw traffic, whatever others do. -/
theorem waitingOf_rotate : waitingOf entity tracker.rotate.2 =
    ((tracker.counters[entity]?.filter fun counter => !counter.interval.isEmpty).map
      fun counter => ⟨entity, counter.interval⟩).toList := by
  rw [waitingOf, rotate, List.filter_map, List.filter_filter]
  have swapped : (tracker.counters.toList.filter fun entry =>
      ((fun closed : ClosedInterval => decide (closed.entity = entity)) ∘
        fun entry : String × Counter => ⟨entry.1, entry.2.interval⟩) entry &&
          !entry.2.interval.isEmpty) =
      (tracker.counters.toList.filter fun entry => entry.1 = entity).filter
        fun entry => !entry.2.interval.isEmpty := by
    rw [List.filter_filter]
    exact List.filter_congr fun entry _ => Bool.and_comm _ _
  rw [swapped, filter_toList]
  cases tracker.counters[entity]? with
  | none => rfl
  | some counter => cases idle : counter.interval.isEmpty <;> simp [Option.filter, idle]

end Tracker

/-! ## Shares -/

namespace Decay

/-- What a tracker and its atlas hold for one entity. -/
structure Share where
  atlas : Atlas.Share
  counter? : Option Counter
  waiting : List ClosedInterval

def share (decay : Decay) (entity : String) : Share where
  atlas := decay.tracker.atlas.share entity
  counter? := decay.tracker.counters[entity]?
  waiting := waitingOf entity decay.waiting

variable {decay first second : Decay} {entity name : String} {address : Bucket.Address}
  {location : Location}

theorem serve_record_of_accepted (accepted : decay.tracker.accept name location = .ok address) :
    decay.serve (.record name location) = ({ decay with
      tracker := (decay.tracker.count name address).chart name address }, .recorded) := by
  simp only [serve, Tracker.record_eq_ok_iff.mpr ⟨address, accepted, rfl⟩]

theorem serve_record_of_refused {fault : Fault}
    (refused : decay.tracker.accept name location = .error fault) :
    decay.serve (.record name location) = (decay, .refused fault) := by
  simp [serve, Tracker.record, refused, bind, Except.bind]

theorem share_eq_share
    (atlas : first.tracker.atlas.share entity = second.tracker.atlas.share entity)
    (counter : first.tracker.counters[entity]? = second.tracker.counters[entity]?)
    (waiting : waitingOf entity first.waiting = waitingOf entity second.waiting) :
    first.share entity = second.share entity := by
  rw [share, share, atlas, counter, waiting]

theorem share_record_of_ne (different : name ≠ entity) : share { decay with
    tracker := (decay.tracker.count name address).chart name address } entity =
      decay.share entity := by
  have counter : ((decay.tracker.count name address).chart name address).counters[entity]? =
      decay.tracker.counters[entity]? :=
    (decay.tracker.getElem?_count entity name address).trans (if_neg different)
  exact share_eq_share (Atlas.share_insertBucket_of_ne different) counter rfl

theorem share_expire_of_ne {closed : ClosedInterval} {place : Nat}
    (found : decay.waiting[place]? = some closed) (different : closed.entity ≠ entity) :
    (decay.step (.expire place)).share entity = decay.share entity := by
  have counter : (decay.tracker.expire closed).counters[entity]? =
      decay.tracker.counters[entity]? :=
    ((decay.tracker.withdraw closed).getElem?_forget entity closed).trans (if_neg different)
  simp only [step, found]
  exact share_eq_share (Atlas.share_removeBuckets_of_ne different _) counter
    (ClosedInterval.waitingOf_eraseIdx_of_ne found different)

theorem ne_of_not_concerns {call : Call} (apart : call.concerns entity = false)
    (named : call.entity? = some name) (keeps : call.changesOverride = false) :
    name ≠ entity := by
  rintro rfl
  simp [Call.concerns, named, keeps] at apart

/-- A call that is left out for an entity does not touch its share. -/
theorem share_serve_of_not_concerns {call : Call} (apart : call.concerns entity = false) :
    (decay.serve call).1.share entity = decay.share entity := by
  cases call with
  | record name location =>
      have different : name ≠ entity := ne_of_not_concerns apart rfl rfl
      cases accepted : decay.tracker.accept name location with
      | error fault => rw [serve_record_of_refused accepted]
      | ok address =>
          rw [serve_record_of_accepted accepted]
          exact share_record_of_ne different
  | expire name index =>
      have different : name ≠ entity := ne_of_not_concerns apart rfl rfl
      cases placed : ClosedInterval.place? name index decay.waiting with
      | none => simp only [serve, placed]
      | some place =>
          obtain ⟨closed, rfl, found, _⟩ := ClosedInterval.exists_of_place? placed
          simp only [serve, placed]
          exact share_expire_of_ne found different
  | atlas request =>
      exact share_eq_share ((decay.tracker.atlas.effect_serve request).share_eq apart) rfl rfl
  | rotate => simp [Call.concerns, Call.changesOverride, Call.entity?] at apart
  | load name => rfl
  | breakdown name => rfl
  | entities => rfl
  | stats => rfl

section Alike

variable (same : first.share entity = second.share entity)

include same

theorem atlas_eq_of_share_eq :
    first.tracker.atlas.share entity = second.tracker.atlas.share entity :=
  congrArg Share.atlas same

theorem counter_eq_of_share_eq :
    first.tracker.counters[entity]? = second.tracker.counters[entity]? :=
  congrArg Share.counter? same

theorem waiting_eq_of_share_eq :
    waitingOf entity first.waiting = waitingOf entity second.waiting :=
  congrArg Share.waiting same

theorem accept_eq_of_share_eq (name : String) (location : Location) :
    first.tracker.accept name location = second.tracker.accept name location := by
  rw [Tracker.accept, Tracker.accept, Atlas.address_eq_of_share_eq (atlas_eq_of_share_eq same)]

theorem share_record_congr (name : String) (address : Bucket.Address) :
    share { first with tracker := (first.tracker.count name address).chart name address } entity =
      share { second with
        tracker := (second.tracker.count name address).chart name address } entity := by
  have atlas := Atlas.share_insertBucket_congr (atlas_eq_of_share_eq same) name address 1
  have counter := counter_eq_of_share_eq same
  have counted : ((first.tracker.count name address).chart name address).counters[entity]? =
      ((second.tracker.count name address).chart name address).counters[entity]? := by
    refine (first.tracker.getElem?_count entity name address).trans ?_
    rw [counter]
    exact (second.tracker.getElem?_count entity name address).symm
  have waiting := waiting_eq_of_share_eq same
  exact share_eq_share atlas counted waiting

theorem share_rotate_congr :
    share { tracker := first.tracker.rotate.1,
            waiting := first.waiting ++ first.tracker.rotate.2 } entity =
      share { tracker := second.tracker.rotate.1,
              waiting := second.waiting ++ second.tracker.rotate.2 } entity := by
  have counter := counter_eq_of_share_eq same
  have rotated : first.tracker.rotate.1.counters[entity]? =
      second.tracker.rotate.1.counters[entity]? := by
    simp only [Tracker.rotate, Std.ExtTreeMap.getElem?_map, counter]
  have waiting : waitingOf entity (first.waiting ++ first.tracker.rotate.2) =
      waitingOf entity (second.waiting ++ second.tracker.rotate.2) := by
    rw [ClosedInterval.waitingOf_append, ClosedInterval.waitingOf_append,
      Tracker.waitingOf_rotate, Tracker.waitingOf_rotate, counter, waiting_eq_of_share_eq same]
  have atlas := atlas_eq_of_share_eq same
  exact share_eq_share atlas rotated waiting

theorem share_expire_congr {closed : ClosedInterval} {place other : Nat}
    (inFirst : first.waiting[place]? = some closed)
    (inSecond : second.waiting[other]? = some closed)
    (rest : waitingOf entity (first.waiting.eraseIdx place) =
      waitingOf entity (second.waiting.eraseIdx other)) :
    (first.step (.expire place)).share entity = (second.step (.expire other)).share entity := by
  have atlas : (first.tracker.expire closed).atlas.share entity =
      (second.tracker.expire closed).atlas.share entity :=
    Atlas.share_removeBuckets_congr (atlas_eq_of_share_eq same) _ _
  have counter : (first.tracker.withdraw closed).counters[entity]? =
      (second.tracker.withdraw closed).counters[entity]? := counter_eq_of_share_eq same
  have expired : (first.tracker.expire closed).counters[entity]? =
      (second.tracker.expire closed).counters[entity]? := by
    rw [Tracker.expire, Tracker.expire, Tracker.getElem?_forget, Tracker.getElem?_forget, counter]
  simp only [step, inFirst, inSecond]
  exact share_eq_share atlas expired rest

/-- What a call makes of a share depends on the share, and so does the answer to a call that names
the entity, if no override is in the way. -/
theorem serve_congr (call : Call) (concerned : call.concerns entity = true) :
    (first.serve call).1.share entity = (second.serve call).1.share entity ∧
      (call.entity? = some entity →
        (call.showsOverride = true → first.tracker.atlas.overrides[entity]? = none ∧
          second.tracker.atlas.overrides[entity]? = none) →
        (first.serve call).2 = (second.serve call).2) := by
  cases call with
  | record name location =>
      have alike := accept_eq_of_share_eq same name location
      cases accepted : second.tracker.accept name location with
      | error fault =>
          rw [serve_record_of_refused (alike.trans accepted), serve_record_of_refused accepted]
          exact ⟨same, fun _ _ => rfl⟩
      | ok address =>
          rw [serve_record_of_accepted (alike.trans accepted), serve_record_of_accepted accepted]
          exact ⟨share_record_congr same name address, fun _ _ => rfl⟩
  | rotate => exact ⟨share_rotate_congr same, fun named => by simp [Call.entity?] at named⟩
  | expire name index =>
      obtain rfl : name = entity := by
        simpa [Call.concerns, Call.changesOverride, Call.entity?] using concerned
      have waiting := waiting_eq_of_share_eq same
      cases placed : ClosedInterval.place? name index first.waiting with
      | none =>
          have missing := ClosedInterval.place?_eq_none_iff.mp placed
          rw [waiting] at missing
          simp only [serve, placed, ClosedInterval.place?_eq_none_iff.mpr missing, implies_true,
            and_true]
          exact same
      | some place =>
          obtain ⟨closed, _, inFirst, listed, rest⟩ := ClosedInterval.exists_of_place? placed
          rw [waiting] at listed rest
          cases placedOther : ClosedInterval.place? name index second.waiting with
          | none => simp [ClosedInterval.place?_eq_none_iff.mp placedOther] at listed
          | some other =>
              obtain ⟨closedOther, _, inSecond, listedOther, restOther⟩ :=
                ClosedInterval.exists_of_place? placedOther
              obtain rfl := Option.some.inj (listed.symm.trans listedOther)
              simp only [serve, placed, placedOther, implies_true, and_true]
              exact share_expire_congr same inFirst inSecond (rest.trans restOther.symm)
  | load name =>
      refine ⟨same, fun named _ => ?_⟩
      obtain rfl : name = entity := Option.some.inj named
      simp only [serve, Tracker.load, counter_eq_of_share_eq same]
  | breakdown name =>
      refine ⟨same, fun named _ => ?_⟩
      obtain rfl : name = entity := Option.some.inj named
      simp only [serve, Tracker.breakdown?, counter_eq_of_share_eq same]
  | entities => exact ⟨same, fun named => by simp [Call.entity?] at named⟩
  | stats => exact ⟨same, fun named => by simp [Call.entity?] at named⟩
  | atlas request =>
      obtain ⟨atlas, reply⟩ := Atlas.serve_congr (atlas_eq_of_share_eq same) request
      have keeps : request.changesOverride = false := by
        simpa [Call.changesOverride] using (Bool.and_eq_true_iff.mp concerned).1
      have counter := counter_eq_of_share_eq same
      have waiting := waiting_eq_of_share_eq same
      exact ⟨share_eq_share atlas counter waiting,
        fun named live => congrArg Response.atlas (reply named keeps live)⟩

end Alike

/-- Only the calls about overrides change them. -/
theorem overrides_serve {call : Call} (keeps : call.changesOverride = false) :
    (decay.serve call).1.tracker.atlas.overrides = decay.tracker.atlas.overrides := by
  cases call with
  | record name location =>
      cases accepted : decay.tracker.accept name location with
      | error fault => rw [serve_record_of_refused accepted]
      | ok address =>
          rw [serve_record_of_accepted accepted]
          rfl
  | expire name index =>
      cases placed : ClosedInterval.place? name index decay.waiting with
      | none => simp only [serve, placed]
      | some place =>
          obtain ⟨closed, _, found, _⟩ := ClosedInterval.exists_of_place? placed
          simp only [serve, placed, step, found]
          exact decay.tracker.atlas.overrides_removeBuckets closed.entity _
  | atlas request => exact Atlas.overrides_serve keeps
  | rotate => rfl
  | load name => rfl
  | breakdown name => rfl
  | entities => rfl
  | stats => rfl

end Decay

/-! ## Sessions -/

/-- An entity's turn in a session with many callers, beside the same turn in a session without
the other calls. -/
structure Turn.Matches (entity : String) (turn alone : Turn) : Prop where
  call : turn.call = alone.call
  response : turn.call.entity? = some entity →
    (turn.call.showsOverride = true → turn.before.tracker.atlas.isExploring entity = false) →
      turn.response = alone.response

namespace Decay

variable {entity : String}

/-- Two sessions with the same share of an entity go the same way for it, if one of them leaves
out what does not concern it and has no override to begin with. -/
theorem share_serveAll {decay alone : Decay} (same : decay.share entity = alone.share entity)
    (free : alone.tracker.atlas.overrides[entity]? = none) (calls : List Call) :
    (decay.serveAll calls).share entity =
        (alone.serveAll (calls.filter (·.concerns entity))).share entity ∧
      List.Forall₂ (Turn.Matches entity)
        ((decay.transcript calls).filter (·.call.concerns entity))
        (alone.transcript (calls.filter (·.concerns entity))) := by
  -- The shares stay the same, and the session on its own never gets an override.
  induction calls generalizing decay alone with
  | nil => exact ⟨same, .nil⟩
  | cons call calls induction =>
      cases concerned : call.concerns entity with
      | false =>
          rw [List.filter_cons_of_neg (by simp [concerned]), transcript,
            List.filter_cons_of_neg (by simp [concerned])]
          exact induction ((share_serve_of_not_concerns concerned).trans same) free
      | true =>
          rw [List.filter_cons_of_pos (by simp [concerned]), transcript,
            List.filter_cons_of_pos (by simp [concerned]), transcript]
          obtain ⟨shares, responses⟩ := serve_congr same call concerned
          have keeps : call.changesOverride = false := by
            simpa using (Bool.and_eq_true_iff.mp concerned).1
          obtain ⟨shareAfter, answers⟩ :=
            induction shares ((congrArg (·[entity]?) (overrides_serve keeps)).trans free)
          refine ⟨shareAfter,
            .cons ⟨rfl, fun named live => responses named fun shows => ?_⟩ answers⟩
          exact ⟨Std.ExtTreeMap.getElem?_eq_none_of_contains_eq_false (live shows), free⟩

/-- Neither the calls of other entities nor the calls about overrides make a difference for an
entity: leaving them out changes nothing that is held for it, and no answer to a call that names
it, unless an override showed in the answer. -/
structure Undisturbed (decay : Decay) (entity : String) (calls : List Call) : Prop where
  territory : (decay.serveAll calls).tracker.atlas.territories[entity]? =
    (decay.serveAll (calls.filter (·.concerns entity))).tracker.atlas.territories[entity]?
  /-- The window and the open interval. -/
  counter : (decay.serveAll calls).tracker.counters[entity]? =
    (decay.serveAll (calls.filter (·.concerns entity))).tracker.counters[entity]?
  waiting : waitingOf entity (decay.serveAll calls).waiting =
    waitingOf entity (decay.serveAll (calls.filter (·.concerns entity))).waiting
  answers : List.Forall₂ (Turn.Matches entity)
    ((decay.transcript calls).filter (·.call.concerns entity))
    (decay.transcript (calls.filter (·.concerns entity)))

theorem undisturbed_of_start {config : Config} {tracker : Tracker}
    (started : Tracker.start config = .ok tracker) (entity : String) (calls : List Call) :
    Undisturbed { tracker } entity calls := by
  obtain ⟨_, rfl⟩ := Tracker.start_eq_ok_iff.mp started
  let fresh : Decay := { tracker := { atlas := { config } } }
  have free : fresh.tracker.atlas.overrides[entity]? = none := by simp [fresh]
  have shared : fresh.share entity = fresh.share entity := rfl
  obtain ⟨same, answers⟩ := share_serveAll shared free calls
  exact {
    territory := Atlas.getElem?_eq_of_share_eq (atlas_eq_of_share_eq same)
    counter := counter_eq_of_share_eq same
    waiting := waiting_eq_of_share_eq same
    answers := answers }

theorem undisturbed_standard : Undisturbed { tracker := { atlas := { config := Config.standard } } }
    "api"
    [.record "api" ⟨2.35, 48.85⟩, .record "web" ⟨2.35, 48.85⟩, .atlas (.setOverride "api" []),
      .rotate, .atlas (.read (.centroids "api")), .expire "web" 0, .atlas (.clearOverride "api"),
      .atlas (.read (.centroids "api")), .expire "api" 0, .load "api", .atlas .mergeAll] :=
  undisturbed_of_start (show Tracker.start Config.standard =
    .ok { atlas := { config := Config.standard } } from rfl) "api" _

end Decay

end LoadAtlas
