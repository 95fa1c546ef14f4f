import LoadAtlas.Bucket.Register

/-!
# Shelves of tallies

Tallies with names, as a program keeps them side by side: requests are added to one of them, and
one of them is taken away from another.  A name that was not used yet stands for an empty tally.

A step that a register stops is not completed, and no step follows it.
-/

namespace LoadAtlas

/-- Tallies by their names. -/
structure Shelf where
  tallies : Std.ExtTreeMap String Tally := ∅
  deriving Inhabited

namespace Shelf

inductive Step
  | record (name key : String) (location : Location) (amount : Nat)
  /-- Takes what one tally holds away from another one, or from itself. -/
  | subtract (name other : String)

def tally (shelf : Shelf) (name : String) : Tally :=
  shelf.tallies.getD name {}

def set (shelf : Shelf) (name : String) (tally : Tally) : Shelf where
  tallies := shelf.tallies.insert name tally

def step (shelf : Shelf) : Step → Except Tally.Stopped Shelf
  | .record name key location amount =>
      ((shelf.tally name).register key location amount).map (shelf.set name)
  | .subtract name other => .ok (shelf.set name ((shelf.tally name).subtract (shelf.tally other)))

/-- A completed step, with what was there before and after it. -/
structure Turn where
  before : Shelf
  step : Step
  after : Shelf

/-- The steps of a run that are completed. -/
def turns (shelf : Shelf) : List Step → List Turn
  | [] => []
  | step :: steps =>
      match shelf.step step with
      | .ok after => ⟨shelf, step, after⟩ :: after.turns steps
      | .error _ => []

end Shelf
end LoadAtlas
