import LoadAtlas.Bucket.Journal
import LoadAtlas.Proofs.Bucket.Weight

/-!
# Journals are exact

As long as the registers can take what is added, which is up to a total of `2 ^ 64 - 1`, a tally
that starts empty counts exactly: its total is the sum of its buckets, every bucket counts what was
put into it less what was taken out, and no register goes below zero.  Every step is a plain
operation on tallies, so the order in which a table hands out its buckets does not show.

The step that would pass the limit is stopped.  It has counted what fitted, bucket after bucket, and
may have written the bucket at which it was stopped, but not the total.
-/

namespace LoadAtlas

theorem Delivery.sum_entries (delivery : Delivery) :
    (delivery.entries.map fun entry => entry.2.count).sum = delivery.table.sum :=
  (delivery.complete.map fun entry => entry.2.count).sum_nat

namespace Tally

variable {tally next : Tally} {key : String} {bucket : Bucket}

/-- The order in which a table hands out its buckets does not show in the tally. -/
theorem Balanced.addEach_entries (balanced : tally.Balanced) (delivery : Delivery) :
    tally.addEach delivery.entries = tally.absorb delivery.table := by
  apply (balanced.addEach _).eq_of_buckets_eq (balanced.absorb _)
  apply Std.ExtTreeMap.ext_getElem?
  intro key
  rw [tally.getElem?_addEach_of_perm delivery.complete, getElem?_absorb]

/-! ## Registers -/

/-- The total is the sum of the buckets, and it fits into its register. -/
structure Registered (tally : Tally) : Prop where
  balanced : tally.Balanced
  fits : tally.total ≤ registerLimit

/-- What is left of an addition that the total cannot take: the bucket is written if it can take the
addition itself, and the total is not. -/
def leaveOff (tally : Tally) (entry : String × Bucket) : Tally :=
  if registerLimit < tally.buckets.countOf entry.1 + entry.2.count then tally
  else { tally with buckets := tally.buckets.add entry.1 entry.2.location entry.2.count }

theorem register_of_beyond {entry : String × Bucket}
    (beyond : registerLimit < tally.total + entry.2.count) :
    tally.register entry.1 entry.2.location entry.2.count = .error ⟨tally.leaveOff entry⟩ := by
  by_cases full : registerLimit < tally.buckets.countOf entry.1 + entry.2.count <;>
    simp [register, leaveOff, full, beyond]

/-- As the total covers every bucket, an addition is stopped by the total alone. -/
theorem Balanced.register_eq_ok_iff (balanced : tally.Balanced) {location : Location}
    {amount : Nat} : tally.register key location amount = .ok next ↔
      tally.total + amount ≤ registerLimit ∧ tally.add key location amount = next := by
  have covered : tally.buckets.countOf key ≤ tally.total :=
    balanced ▸ tally.buckets.countOf_le_sum key
  by_cases fits : tally.total + amount ≤ registerLimit
  · rw [register_eq_ok location (by omega) fits, Except.ok.injEq]
    exact (and_iff_right fits).symm
  · refine iff_of_false (fun done => ?_) fun both => fits both.1
    have beyond : registerLimit < tally.total + amount := by omega
    unfold register at done
    split at done <;> cases done

theorem Registered.add (registered : tally.Registered) {amount : Nat}
    (fits : tally.total + amount ≤ registerLimit) (key : String) (location : Location) :
    (tally.add key location amount).Registered :=
  ⟨registered.balanced.add key location amount, fits⟩

theorem Registered.registerEach_eq_ok_iff (registered : tally.Registered)
    {entries : List (String × Bucket)} : tally.registerEach entries = .ok next ↔
      tally.total + (entries.map fun entry => entry.2.count).sum ≤ registerLimit ∧
        tally.addEach entries = next := by
  induction entries generalizing tally with
  | nil =>
      have fits := registered.fits
      simp [registerEach, addEach, pure, Except.pure, fits]
  | cons entry entries induction =>
      have first : tally.registerEach (entry :: entries) =
          (tally.register entry.1 entry.2.location entry.2.count).bind
            fun tally => tally.registerEach entries :=
        rfl
      rw [first, List.map_cons, List.sum_cons]
      by_cases fits : tally.total + entry.2.count ≤ registerLimit
      · rw [registered.balanced.register_eq_ok_iff.mpr ⟨fits, rfl⟩]
        change (tally.add entry.1 entry.2.location entry.2.count).registerEach entries = _ ↔ _
        rw [induction (registered.add fits entry.1 entry.2.location), total_add, Nat.add_assoc]
        rfl
      · cases done : tally.register entry.1 entry.2.location entry.2.count with
        | ok _ => exact absurd (registered.balanced.register_eq_ok_iff.mp done).1 fits
        | error _ =>
            refine iff_of_false (fun stopped => by cases stopped) fun both => ?_
            omega

/-- A table is absorbed in the same way in whatever order it hands out its buckets. -/
theorem Registered.registerEach_entries_eq_ok_iff (registered : tally.Registered)
    (delivery : Delivery) : tally.registerEach delivery.entries = .ok next ↔
      tally.total + delivery.table.sum ≤ registerLimit ∧ tally.absorb delivery.table = next := by
  rw [registered.registerEach_eq_ok_iff, delivery.sum_entries,
    registered.balanced.addEach_entries]

/-- The number of requests that a step adds. -/
def Step.size : Step → Nat
  | .add _ _ amount => amount
  | .remove _ _ => 0
  | .absorb delivery => delivery.table.sum

/-- The buckets that a step adds, one after the other. -/
def Step.entries : Step → List (String × Bucket)
  | .add key location amount => [(key, ⟨location, amount⟩)]
  | .remove _ _ => []
  | .absorb delivery => delivery.entries

/-- The number of requests that a step adds to the bucket with a key. -/
def Step.put (key : String) : Step → Nat
  | .add other _ amount => if other = key then amount else 0
  | .remove _ _ => 0
  | .absorb delivery => delivery.table.countOf key

/-- The bucket with a key, as a step gives it. -/
def Step.bucket? (key : String) : Step → Option Bucket
  | .add other location amount => if other = key then some ⟨location, amount⟩ else none
  | .remove _ _ => none
  | .absorb delivery => delivery.table[key]?

/-- The number of requests that a completed step took out of the bucket with a key. -/
def Turn.takenFrom (key : String) (turn : Turn) : Nat :=
  match turn.step with
  | .remove other _ => if other = key then turn.taken else 0
  | _ => 0

/-- A step is stopped at the first bucket that the total cannot take, with the buckets before it
counted. -/
def StopsAt (tally : Tally) (entries : List (String × Bucket)) (left : Tally) : Prop :=
  ∃ done entry later, entries = done ++ entry :: later ∧
    tally.total + (done.map fun entry => entry.2.count).sum ≤ registerLimit ∧
      registerLimit < tally.total + (done.map fun entry => entry.2.count).sum + entry.2.count ∧
        left = (tally.addEach done).leaveOff entry

/-- A step as a plain operation on tallies, where every number fits. -/
def apply (tally : Tally) : Step → Tally × Nat
  | .add key location amount => (tally.add key location amount, 0)
  | .remove key amount => tally.remove key amount
  | .absorb delivery => (tally.absorb delivery.table, 0)

variable {step : Step} {taken : Nat} {steps : List Step}

namespace Registered

theorem deregister_eq_ok (registered : tally.Registered) (key : String) (amount : Nat) :
    tally.deregister key amount = .ok (tally.remove key amount) := by
  apply Tally.deregister_eq_ok
  have covered := tally.buckets.countOf_le_sum key
  have balanced := registered.balanced
  rw [Balanced] at balanced
  rw [remove_snd]
  omega

private theorem map_eq_ok_iff {result : Except Stopped Tally} {fits : Prop} {plain : Tally}
    (spec : ∀ next, result = .ok next ↔ fits ∧ plain = next) :
    (result.map fun next => (next, 0)) = .ok (next, taken) ↔
      fits ∧ (plain, 0) = (next, taken) := by
  cases result with
  | error stopped =>
      have stops := spec plain
      refine iff_of_false (fun done => by cases done) fun both => ?_
      cases stops.mpr ⟨both.1, rfl⟩
  | ok counted =>
      obtain ⟨fitting, rfl⟩ := (spec counted).mp rfl
      rw [Except.map, Except.ok.injEq]
      exact (and_iff_right fitting).symm

/-- A step is stopped iff the total would not fit, and else it is a plain operation. -/
theorem step_eq_ok_iff (registered : tally.Registered) : tally.step step = .ok (next, taken) ↔
    tally.total + step.size ≤ registerLimit ∧ tally.apply step = (next, taken) := by
  have fits := registered.fits
  cases step with
  | add key location amount =>
      exact map_eq_ok_iff fun _ => registered.balanced.register_eq_ok_iff
  | remove key amount =>
      rw [Tally.step, registered.deregister_eq_ok, Except.ok.injEq]
      exact (and_iff_right fits).symm
  | absorb delivery =>
      exact map_eq_ok_iff fun _ => registered.registerEach_entries_eq_ok_iff delivery

theorem registerEach_of_beyond (registered : tally.Registered) {entries : List (String × Bucket)}
    (beyond : registerLimit < tally.total + (entries.map fun entry => entry.2.count).sum) :
    ∃ left, tally.registerEach entries = .error ⟨left⟩ ∧ tally.StopsAt entries left := by
  induction entries generalizing tally with
  | nil => exact absurd registered.fits (Nat.not_le_of_lt beyond)
  | cons entry entries induction =>
      have first : tally.registerEach (entry :: entries) =
          (tally.register entry.1 entry.2.location entry.2.count).bind
            fun tally => tally.registerEach entries :=
        rfl
      rw [List.map_cons, List.sum_cons] at beyond
      rcases Nat.lt_or_ge registerLimit (tally.total + entry.2.count) with here | fits
      · rw [first, register_of_beyond here]
        exact ⟨_, rfl, [], entry, entries, rfl, registered.fits, here, rfl⟩
      · rw [first, registered.balanced.register_eq_ok_iff.mpr ⟨fits, rfl⟩]
        obtain ⟨left, stopped, done, last, later, split, counted, passed, same⟩ :=
          induction (registered.add fits entry.1 entry.2.location) (by rw [total_add]; omega)
        rw [total_add] at counted passed
        refine ⟨left, stopped, entry :: done, last, later, congrArg (entry :: ·) split, ?_, ?_,
          same⟩ <;>
          rw [List.map_cons, List.sum_cons] <;> omega

/-- A step that would pass the limit is stopped. -/
theorem step_of_beyond (registered : tally.Registered)
    (beyond : registerLimit < tally.total + step.size) :
    ∃ left, tally.step step = .error ⟨left⟩ ∧ tally.StopsAt step.entries left := by
  cases step with
  | add key location amount =>
      have stops := register_of_beyond (show registerLimit <
        tally.total + ((key, ⟨location, amount⟩) : String × Bucket).2.count from beyond)
      rw [Tally.step, stops]
      exact ⟨_, rfl, [], _, [], rfl, registered.fits, beyond, rfl⟩
  | remove key amount => exact absurd registered.fits (Nat.not_le_of_lt beyond)
  | absorb delivery =>
      rw [Step.size, ← delivery.sum_entries] at beyond
      obtain ⟨left, stopped, stops⟩ := registered.registerEach_of_beyond beyond
      rw [Tally.step, stopped]
      exact ⟨left, rfl, stops⟩

theorem apply (registered : tally.Registered)
    (fits : tally.total + step.size ≤ registerLimit) : (tally.apply step).1.Registered := by
  cases step with
  | add key location amount => exact registered.add fits key location
  | remove key amount =>
      refine ⟨registered.balanced.remove key amount, ?_⟩
      change (tally.remove key amount).1.total ≤ _
      have total := tally.remove_fst_total key amount
      have before := registered.fits
      omega
  | absorb delivery =>
      refine ⟨registered.balanced.absorb delivery.table, ?_⟩
      change (tally.absorb delivery.table).total ≤ _
      rwa [total_absorb]

end Registered

/-- A bucket that a step makes up is as it was given. -/
theorem getElem?_apply_of_none (absent : tally.buckets[key]? = none) (step : Step) :
    (tally.apply step).1.buckets[key]? = step.bucket? key := by
  cases step with
  | add other location amount =>
      simp only [apply, buckets_add, BucketTable.getElem?_add, absent, Step.bucket?,
        Option.merge_none_left]
  | remove other amount =>
      simp only [apply, getElem?_remove, absent, Step.bucket?, Option.bind_none, ite_self]
  | absorb delivery =>
      simp only [apply, getElem?_absorb, absent, Step.bucket?, Option.merge_none_left]

namespace Registered

theorem removed (registered : tally.Registered) (key : String) (amount : Nat) :
    tally.step (.remove key amount) =
      .ok ((tally.remove key amount).1, min amount (tally.buckets.countOf key)) := by
  rw [Tally.step, registered.deregister_eq_ok, ← remove_snd]

theorem created (registered : tally.Registered) (done : tally.step step = .ok (next, taken))
    (absent : tally.buckets[key]? = none) : next.buckets[key]? = step.bucket? key := by
  obtain ⟨_, plain⟩ := registered.step_eq_ok_iff.mp done
  have given := getElem?_apply_of_none absent step
  rwa [plain] at given

/-- Absorbing all the buckets of another tally adds up the two, if the totals fit together. -/
theorem absorbed (registered : tally.Registered) {other : Tally} (balanced : other.Balanced)
    {delivery : Delivery} (same : delivery.table = other.buckets)
    (fits : tally.total + other.total ≤ registerLimit) :
    ∃ filled : Tally, tally.step (.absorb delivery) = .ok (filled, 0) ∧
      filled.total = tally.total + other.total ∧ ∀ key : String,
        filled.buckets.countOf key = tally.buckets.countOf key + other.buckets.countOf key := by
  have moved : delivery.table.sum = other.total := by
    rw [same]
    exact balanced.symm
  refine ⟨_, registered.step_eq_ok_iff.mpr ⟨by rwa [Step.size, moved], rfl⟩, ?_, fun key => ?_⟩
  · rw [total_absorb, moved]
  · rw [countOf_absorb, same]

end Registered

/-! ## Journals -/

namespace Registered

theorem journal_cons (registered : tally.Registered)
    (fits : tally.total + step.size ≤ registerLimit) (steps : List Step) :
    tally.journal (step :: steps) =
      { (tally.apply step).1.journal steps with
        turns := ⟨step, (tally.apply step).2⟩ :: ((tally.apply step).1.journal steps).turns } := by
  have done : tally.step step = .ok ((tally.apply step).1, (tally.apply step).2) :=
    registered.step_eq_ok_iff.mpr ⟨fits, rfl⟩
  rw [Tally.journal, done]

theorem journal_of_beyond (registered : tally.Registered)
    (beyond : registerLimit < tally.total + step.size) (steps : List Step) :
    ∃ left, tally.journal (step :: steps) = ⟨tally, [], some ⟨left⟩⟩ ∧
      tally.StopsAt step.entries left := by
  obtain ⟨left, stopped, stops⟩ := registered.step_of_beyond beyond
  refine ⟨left, ?_, stops⟩
  rw [Tally.journal, stopped]

theorem journal (registered : tally.Registered) (steps : List Step) :
    (tally.journal steps).tally.Registered := by
  induction steps generalizing tally with
  | nil => exact registered
  | cons step steps induction =>
      rcases Nat.lt_or_ge registerLimit (tally.total + step.size) with beyond | fits
      · obtain ⟨left, same, _⟩ := registered.journal_of_beyond beyond steps
        rwa [same]
      · rw [registered.journal_cons fits]
        exact induction (registered.apply fits)

end Registered

theorem registered_empty : empty.Registered where
  balanced := sound_empty.balanced
  fits := Nat.zero_le _

/-- A tally that was empty, after the steps that its registers could take. -/
structure Exact (steps : List Step) (journal : Journal) : Prop where
  /-- The steps are completed up to the first one that would pass the limit of the total. -/
  course : ∃ rest, steps = journal.turns.map Turn.step ++ rest ∧
    ∀ step ∈ rest.head?, registerLimit < journal.tally.total + step.size
  through : journal.stopped? = none → journal.turns.map Turn.step = steps
  /-- What a step leaves that is stopped: it has counted its buckets up to the first that the total
  cannot take, and may have written that one. -/
  stopped : ∀ stopped : Stopped, journal.stopped? = some stopped → ∃ step later,
    steps = journal.turns.map Turn.step ++ step :: later ∧
      journal.tally.StopsAt step.entries stopped.left
  fits : journal.tally.total ≤ registerLimit
  total : journal.tally.total = journal.tally.buckets.sum
  /-- A bucket counts what was put into it and not taken out. -/
  balance : ∀ key : String, journal.tally.buckets.countOf key +
      (journal.turns.map (Turn.takenFrom key)).sum =
    (journal.turns.map fun turn => turn.step.put key).sum
  /-- A removal is never stopped, and takes what is there up to the amount asked for. -/
  removal : ∀ (key : String) (amount : Nat), ∃ rest : Tally,
    journal.tally.step (.remove key amount) =
      .ok (rest, min amount (journal.tally.buckets.countOf key))
  unknown : ∀ (key : String) (amount : Nat), journal.tally.buckets[key]? = none →
    journal.tally.step (.remove key amount) = .ok (journal.tally, 0)
  /-- A bucket that is not there is made up as it is given. -/
  created : ∀ (step : Step) (next : Tally) (taken : Nat) (key : String),
    journal.tally.step step = .ok (next, taken) → journal.tally.buckets[key]? = none →
      next.buckets[key]? = step.bucket? key
  /-- A bucket disappears iff a removal takes out all that it counts. -/
  dropped : ∀ (step : Step) (next : Tally) (taken : Nat) (key : String) (bucket : Bucket),
    journal.tally.step step = .ok (next, taken) → journal.tally.buckets[key]? = some bucket →
      (next.buckets[key]? = none ↔
        ∃ amount, step = .remove key amount ∧ taken = bucket.count)
  /-- While a bucket stays, it keeps its location. -/
  settled : ∀ (later : List Step) (key : String) (bucket last : Bucket),
    journal.tally.buckets[key]? = some bucket →
      (∀ soon, soon <+: later → (journal.tally.journal soon).tally.buckets[key]? ≠ none) →
        (journal.tally.journal later).tally.buckets[key]? = some last →
          last.location = bucket.location
  /-- A table may hand out its buckets in any order. -/
  unordered : ∀ delivery : Delivery,
    (journal.tally.registerEach delivery.entries).toOption =
      (journal.tally.registerAll delivery.table).toOption
  /-- Buckets that are taken from one tally and absorbed by another one are moved. -/
  moved : ∀ (others : List Step) (delivery : Delivery),
    delivery.table = journal.tally.takeBuckets.2 →
      journal.tally.takeBuckets.1 = empty ∧
        ((empty.journal others).tally.total + journal.tally.total ≤ registerLimit →
          ∃ filled : Tally,
            (empty.journal others).tally.step (.absorb delivery) = .ok (filled, 0) ∧
              filled.total = (empty.journal others).tally.total + journal.tally.total ∧
                ∀ key : String, filled.buckets.countOf key =
                  (empty.journal others).tally.buckets.countOf key +
                    journal.tally.buckets.countOf key)

/-- What is taken out when more is asked for than there is, and where there is nothing. -/
example : (empty.journal [.add "a" ⟨2.35, 48.85⟩ 5, .add "b" ⟨2.36, 48.85⟩ 1, .remove "a" 4,
    .remove "a" 10, .remove "a" 1]).turns.map Turn.taken = [0, 0, 4, 1, 0] := by
  decide +kernel

end Tally
end LoadAtlas
