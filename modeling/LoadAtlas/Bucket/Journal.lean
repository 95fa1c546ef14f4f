import LoadAtlas.Bucket.Register

/-!
# Journals of a tally

A tally in registers is used step by step: requests are added to a bucket or taken out of one, or
the buckets of a table are absorbed one after the other.  In which order a table hands out its
buckets is not known beforehand, only that each of them comes once.

A step that a register stops is not completed, and no step follows it.  The journal keeps the tally
as it was before that step, and what the step left behind.
-/

namespace LoadAtlas

/-- A table together with the order in which it hands out its buckets. -/
structure Delivery where
  table : BucketTable
  entries : List (String × Bucket)
  complete : entries.Perm table.toList

/-- A table that hands out its buckets in the order of their keys. -/
def Delivery.ofTable (table : BucketTable) : Delivery :=
  ⟨table, table.toList, .refl _⟩

namespace Tally

inductive Step
  | add (key : String) (location : Location) (amount : Nat)
  | remove (key : String) (amount : Nat)
  | absorb (delivery : Delivery)

def registerEach (tally : Tally) (entries : List (String × Bucket)) : Except Stopped Tally :=
  entries.foldlM
    (fun tally entry => tally.register entry.1 entry.2.location entry.2.count) tally

/-- The tally after a step, and how many requests the step took out. -/
def step (tally : Tally) : Step → Except Stopped (Tally × Nat)
  | .add key location amount => (tally.register key location amount).map fun next => (next, 0)
  | .remove key amount => tally.deregister key amount
  | .absorb delivery => (tally.registerEach delivery.entries).map fun next => (next, 0)

/-- Empties a tally and hands out its buckets. -/
def takeBuckets (tally : Tally) : Tally × BucketTable :=
  ({ total := 0, buckets := ∅ }, tally.buckets)

/-- A completed step and how many requests it took out. -/
structure Turn where
  step : Step
  taken : Nat

/-- A tally together with the steps that led to it. -/
structure Journal where
  tally : Tally
  turns : List Turn
  /-- What the next step left behind, if it was stopped. -/
  stopped? : Option Stopped := none

/-- The journal of some steps, up to the first one that is stopped. -/
def journal (tally : Tally) : List Step → Journal
  | [] => { tally, turns := [] }
  | step :: steps =>
      match tally.step step with
      | .ok (next, taken) =>
          let rest := next.journal steps
          { rest with turns := ⟨step, taken⟩ :: rest.turns }
      | .error stopped => { tally, turns := [], stopped? := some stopped }

end Tally
end LoadAtlas
