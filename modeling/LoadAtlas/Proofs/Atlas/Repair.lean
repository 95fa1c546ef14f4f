import LoadAtlas.Proofs.Atlas.Strict
import LoadAtlas.Proofs.Forest.Split
import LoadAtlas.Proofs.Forest.Sprout

/-!
# Covering as a repair

A location is covered because no leaf was found for it, and it is looked up again afterwards.
The two descents are two walks with stop conditions of their own, and counting a client ends
only if they agree.  They do, on every well-formed forest: covering adds one leaf if the lookup
found none and nothing otherwise, that leaf is what the next lookup finds, and no lookup that
found a leaf before finds another one.
-/

namespace LoadAtlas

namespace Forest

/-- Covering a location is the least change of a forest after which a lookup finds its leaf. -/
structure Repaired (topLevel maxLevel : Nat) (location : Location) (before after : Forest)
    (leaf : CellId) : Prop where
  /-- Both descents come to an end, with no cell missing on the way. -/
  lookup : Strict.locate before location topLevel maxLevel =
    .ok (before.locate? location topLevel maxLevel)
  covers : Strict.cover before location topLevel maxLevel = .ok (after, leaf)
  /-- Where a leaf was found, that leaf is it, and nothing changes. -/
  idle : ∀ found : CellId, before.locate? location topLevel maxLevel = some found →
    after = before ∧ leaf = found
  /-- Where none was found, one empty leaf comes to be, on top or below one split cell. -/
  sprouted : before.locate? location topLevel maxLevel = none →
    Sprouted before after leaf ∧ after.isActive leaf = true ∧
      after.cells[leaf]? = some Cell.empty ∧
        ∀ other : CellId, other ∈ after.cells ↔ other = leaf ∨ other ∈ before.cells
  kept : ∀ (other : CellId) (cell : Cell), before.cells[other]? = some cell →
    after.isActive other = before.isActive other ∧
      ∃ later : Cell, after.cells[other]? = some later ∧ later.tally = cell.tally
  wellFormed : after.WellFormed topLevel maxLevel
  found : after.locate? location topLevel maxLevel = some leaf
  /-- What was found for any location is found again. -/
  others : ∀ (other : Location) (found : CellId),
    before.locate? other topLevel maxLevel = some found →
      after.locate? other topLevel maxLevel = some found
  again : after.cover location topLevel maxLevel = (after, leaf)
  /-- Counting a client looks its leaf up twice at most. -/
  attempts : ∀ (territory : Territory) (config : Config) (address : Bucket.Address) (amount : Nat),
    territory.forest = before → config.topLevel.toNat = topLevel →
      config.maxLevel.toNat = maxLevel → address.location = location →
        Territory.Strict.place territory config address amount 2 =
          .ok (territory.place config address amount)

namespace WellFormed

variable {topLevel maxLevel : Nat} {forest : Forest}

theorem repaired_cover (wellFormed : forest.WellFormed topLevel maxLevel)
    (ordered : topLevel ≤ maxLevel) (bounded : maxLevel ≤ CellId.finestLevel)
    (location : Location) :
    Repaired topLevel maxLevel location forest (forest.cover location topLevel maxLevel).1
      (forest.cover location topLevel maxLevel).2 := by
  have covered := wellFormed.cover ordered bounded location
  have found := (covered.kept.wellFormed.locate?_eq_some_iff ordered bounded).mpr covered.leafAt
  have sprouted : forest.locate? location topLevel maxLevel = none →
      Sprouted forest (forest.cover location topLevel maxLevel).1
        (forest.cover location topLevel maxLevel).2 :=
    wellFormed.sprouted_cover ordered bounded
  refine ⟨Strict.locate_eq_ok wellFormed ordered bounded location,
    Strict.cover_eq_ok wellFormed ordered bounded location, fun leaf foundBefore => ?_,
    fun uncovered => ?_, fun other cell present => ?_, covered.kept.wellFormed, found,
    fun other leaf foundBefore => ?_, cover_of_locate? found, ?_⟩
  · rw [cover_of_locate? foundBefore]
    exact ⟨rfl, rfl⟩
  · have grown := sprouted uncovered
    refine ⟨grown, ?_, grown.created, fun other => grown.mem_cells_iff⟩
    rw [isActive, grown.active, Std.ExtTreeSet.contains_insert_self]
  · cases foundBefore : forest.locate? location topLevel maxLevel with
    | some leaf =>
        rw [cover_of_locate? foundBefore]
        exact ⟨rfl, cell, present, rfl⟩
    | none =>
        have grown := sprouted foundBefore
        obtain ⟨later, laterPresent, sameTally, _⟩ := grown.origin present
        refine ⟨grown.isActive_eq ?_, later, laterPresent, sameTally⟩
        rintro rfl
        exact absurd (grown.absent.symm.trans present) (Option.some_ne_none cell).symm
  · have leafAt := (wellFormed.locate?_eq_some_iff ordered bounded).mp foundBefore
    rw [covered.kept.wellFormed.locate?_eq_some_iff ordered bounded]
    cases foundHere : forest.locate? location topLevel maxLevel with
    | some here => rwa [cover_of_locate? foundHere]
    | none => exact (sprouted foundHere).leafAt leafAt
  · rintro territory config address amount rfl rfl rfl rfl
    exact Territory.Strict.place_eq_ok wellFormed ordered bounded address amount

end WellFormed

section Elsewhere

variable (place : Location)

theorem locate?_elsewhere :
    (splitInto (place.cellAt 0) (elsewhere place)).locate? place 0 1 = none := by
  refine Option.eq_none_iff_forall_ne_some.mpr fun leaf found => ?_
  exact not_leafAt_elsewhere (((wellFormed_elsewhere place).locate?_eq_some_iff (Nat.zero_le 1)
    (by decide)).mp found)

/-- The cell that is made for a place below its face is the one of the next level. -/
theorem cover_elsewhere :
    ((splitInto (place.cellAt 0) (elsewhere place)).cover place 0 1).2 = place.cellAt 1 := by
  have wellFormed := wellFormed_elsewhere place
  have covered := wellFormed.cover (Nat.zero_le 1) (by decide) place
  have sprouted := wellFormed.sprouted_cover (Nat.zero_le 1) (by decide) (locate?_elsewhere place)
  obtain ⟨falls, cell, present, _⟩ := covered.leafAt
  have absent := sprouted.absent
  have atMost := (covered.kept.wellFormed.levels present).2
  generalize ((splitInto (place.cellAt 0) (elsewhere place)).cover place 0 1).2 = leaf
    at falls absent atMost
  rw [Location.FallsInto] at falls
  rcases Nat.le_one_iff_eq_zero_or_eq_one.mp atMost with top | below
  · rw [top] at falls
    rw [← falls, (parts_elsewhere place).getElem?_top (isCell_face place) (room_face place)]
      at absent
    cases absent
  · rw [← falls, below]

end Elsewhere

/-- A place that is not covered, although its face was split and its other cells are there: the
cell of the next level around the place is appended. -/
theorem repaired_elsewhere :
    let place : Location := ⟨2.35, 48.85⟩
    let forest := splitInto (place.cellAt 0) (elsewhere place)
    forest.WellFormed 0 1 ∧ forest.locate? place 0 1 = none ∧
      Repaired 0 1 place forest (forest.cover place 0 1).1 (forest.cover place 0 1).2 ∧
        (forest.cover place 0 1).2 = place.cellAt 1 := by
  intro place forest
  have wellFormed : forest.WellFormed 0 1 := wellFormed_elsewhere place
  exact ⟨wellFormed, locate?_elsewhere place,
    wellFormed.repaired_cover (Nat.zero_le 1) (by decide) place, cover_elsewhere place⟩

end Forest

end LoadAtlas
