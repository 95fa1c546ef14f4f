import LoadAtlas.Bucket.Shelf
import LoadAtlas.Proofs.Bucket.Breakdown
import LoadAtlas.Proofs.Bucket.Expiry

/-!
# When totals match breakdowns

The total of a tally is kept apart from its breakdown.  A subtraction takes from each bucket what
is there to take, but the whole total of the other tally from the total; so what the other tally
counts in excess of a bucket is taken from the total only.

The two agree after a subtraction iff one of the tallies counts as much as the other for every
key: either nothing is cut off, or everything is.  So along a run all totals match their
breakdowns iff all subtractions of the run are of this kind.
-/

namespace LoadAtlas

namespace Tally

variable {tally expired : Tally}

/-- The total is the sum of the listed buckets, and so it is zero iff they hold no requests. -/
structure Faithful (tally : Tally) : Prop where
  total : tally.total = (tally.busiestFirst.map BucketCount.count).sum
  isEmpty : tally.isEmpty = true ↔ ∀ bucket ∈ tally.busiestFirst, bucket.count = 0

/-- One of two tallies counts at least as much as the other for every key. -/
def Nested (tally expired : Tally) : Prop :=
  (∀ key, expired.buckets.countOf key ≤ tally.buckets.countOf key) ∨
    ∀ key, tally.buckets.countOf key ≤ expired.buckets.countOf key

theorem sum_busiestFirst (tally : Tally) :
    (tally.busiestFirst.map BucketCount.count).sum = tally.buckets.sum := by
  have perm := (List.mergeSort_perm tally.byKey fun first second => second.count ≤ first.count).map
    BucketCount.count
  rw [busiestFirst, perm.sum_nat, byKey, List.map_map, BucketTable.sum]
  rfl

theorem faithful_iff_balanced : tally.Faithful ↔ tally.Balanced := by
  constructor
  · intro faithful
    rw [Balanced, ← sum_busiestFirst]
    exact faithful.total
  · intro balanced
    have total : tally.total = (tally.busiestFirst.map BucketCount.count).sum :=
      balanced.trans tally.sum_busiestFirst.symm
    refine ⟨total, ?_⟩
    rw [isEmpty, decide_eq_true_eq, total, List.sum_eq_zero_iff, List.forall_mem_map]

/-- Nothing is left iff the other tally counts at least as much for every key. -/
theorem sum_subtract_eq_zero_iff : (tally.subtract expired).buckets.sum = 0 ↔
    ∀ key, tally.buckets.countOf key ≤ expired.buckets.countOf key := by
  constructor
  · intro nothing key
    have bound := (tally.subtract expired).buckets.countOf_le_sum key
    rw [countOf_subtract_eq_sub] at bound
    omega
  · intro covered
    by_contra something
    rw [BucketTable.sum_eq_weigh, BucketTable.weigh] at something
    obtain ⟨key, bucket, present, positive⟩ :=
      Table.sum_pos_iff.mp (Nat.pos_of_ne_zero something)
    have rest := countOf_subtract_eq_sub tally expired key
    have bound := covered key
    simp only [BucketTable.countOf, present] at rest bound
    omega

/-- A subtraction of balanced tallies leaves a balanced one iff they are nested. -/
theorem Balanced.subtract_iff (balanced : tally.Balanced) (expiredBalanced : expired.Balanced) :
    (tally.subtract expired).Balanced ↔ tally.Nested expired := by
  have weighed := weigh_subtract_add_common (fun _ => 1) tally expired
  have bound : common (fun _ => 1) tally expired ≤ expired.buckets.sum := by
    rw [BucketTable.sum_eq_weigh]
    exact Table.sum_le_sum fun key bucket _ => Nat.mul_le_mul_left 1 (Nat.min_le_left _ _)
  have total : (tally.subtract expired).total = tally.total - expired.total := rfl
  rw [← BucketTable.sum_eq_weigh, ← BucketTable.sum_eq_weigh] at weighed
  rw [Nested, ← common_eq_sum_iff, ← sum_subtract_eq_zero_iff, Balanced, total]
  rw [Balanced] at balanced expiredBalanced
  omega

end Tally

namespace Shelf

variable {shelf after : Shelf} {name : String} {step : Step} {turn : Turn}

/-- A step that is a subtraction is one of nested tallies. -/
def Turn.Nested (turn : Turn) : Prop :=
  match turn.step with
  | .record _ _ _ _ => True
  | .subtract name other => (turn.before.tally name).Nested (turn.before.tally other)

/-- The totals of all tallies match their breakdowns. -/
def Faithful (shelf : Shelf) : Prop :=
  ∀ name, (shelf.tally name).Faithful

theorem tally_set (shelf : Shelf) (name : String) (tally : Tally) (other : String) :
    (shelf.set name tally).tally other = if name = other then tally else shelf.tally other := by
  by_cases same : name = other <;>
    simp [set, Shelf.tally, Std.ExtTreeMap.getD_insert, same]

theorem faithful_empty : Faithful {} := fun name => by
  rw [Tally.faithful_iff_balanced, Shelf.tally, Std.ExtTreeMap.getD_empty]
  exact Tally.sound_empty.balanced

theorem Faithful.set_iff (faithful : shelf.Faithful) {tally : Tally} :
    (shelf.set name tally).Faithful ↔ tally.Faithful := by
  constructor
  · intro kept
    have here := kept name
    rwa [tally_set, if_pos rfl] at here
  · intro kept other
    rw [tally_set]
    split
    · exact kept
    · exact faithful other

/-- A step keeps totals and breakdowns together iff it is no subtraction of tallies that are not
nested. -/
theorem Faithful.step_iff (faithful : shelf.Faithful) (done : shelf.step step = .ok after) :
    after.Faithful ↔ Turn.Nested ⟨shelf, step, after⟩ := by
  cases step with
  | record name key location amount =>
      obtain ⟨tally, counted, rfl⟩ : ∃ tally, (shelf.tally name).register key location amount =
          .ok tally ∧ shelf.set name tally = after := by
        cases counted : (shelf.tally name).register key location amount with
        | error _ => simp [step, counted, Except.map] at done
        | ok tally => exact ⟨tally, rfl, by simpa [step, counted, Except.map] using done⟩
      rw [faithful.set_iff, Tally.faithful_iff_balanced]
      refine iff_of_true ?_ trivial
      obtain rfl := Tally.eq_add_of_register_eq_ok counted
      exact (Tally.faithful_iff_balanced.mp (faithful name)).add key location amount
  | subtract name other =>
      obtain rfl := Except.ok.inj done
      rw [faithful.set_iff, Tally.faithful_iff_balanced]
      exact (Tally.faithful_iff_balanced.mp (faithful name)).subtract_iff
        (Tally.faithful_iff_balanced.mp (faithful other))

/-- Along a run from faithful tallies, all totals go on matching their breakdowns iff all
subtractions are of nested tallies. -/
theorem Faithful.turns_iff (faithful : shelf.Faithful) (steps : List Step) :
    (∀ turn ∈ shelf.turns steps, turn.after.Faithful) ↔
      ∀ turn ∈ shelf.turns steps, turn.Nested := by
  induction steps generalizing shelf with
  | nil => simp [turns]
  | cons step steps induction =>
      cases done : shelf.step step with
      | error _ => simp [turns, done]
      | ok after =>
          simp only [turns, done, List.forall_mem_cons]
          rw [← faithful.step_iff done]
          exact and_congr_right fun kept => induction kept

/-- Along a run from empty tallies, after every step the total of every tally is the sum of its
breakdown, and zero iff the breakdown holds no requests, as long as all subtractions are of nested
tallies; and else not. -/
theorem faithful_iff_nested (steps : List Step) :
    (∀ turn ∈ ({} : Shelf).turns steps, turn.after.Faithful) ↔
      ∀ turn ∈ ({} : Shelf).turns steps, turn.Nested :=
  faithful_empty.turns_iff steps

/-- Five requests in one bucket, and three requests in another bucket taken away from them. -/
def overdrawn : List Step :=
  let location : Location := ⟨-74.0060, 40.7128⟩
  [.record "w" "a" location 5, .record "i" "b" location 3, .subtract "w" "i"]

theorem not_faithful_overdrawn :
    ¬ ∀ turn ∈ ({} : Shelf).turns overdrawn, turn.after.Faithful := by
  intro faithful
  have off : ∃ turn ∈ ({} : Shelf).turns overdrawn, (turn.after.tally "w").total = 2 ∧
      ((turn.after.tally "w").busiestFirst.map BucketCount.count).sum = 5 := by
    decide +kernel
  obtain ⟨turn, member, total, sum⟩ := off
  have same := (faithful turn member "w").total
  omega

end Shelf

end LoadAtlas
