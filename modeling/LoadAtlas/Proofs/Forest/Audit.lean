import LoadAtlas.Forest.Audit
import LoadAtlas.Proofs.Forest.WellFormed
import Mathlib.Data.List.Perm.Subperm

/-!
# Audits of well-formed forests

An audit accepts every well-formed forest.  The cells that wait never lie inside one another,
and a cell was met exactly if it lies inside none of them; so the walk meets every cell once
and never runs out of steps.
-/

namespace LoadAtlas

namespace Forest

variable {topLevel maxLevel : Nat} {forest : Forest} {id : CellId} {cell : Cell}
  {waiting : List CellId} {met : CellSet}

theorem WellFormed.cellDefect?_eq_none (wellFormed : forest.WellFormed topLevel maxLevel)
    (present : forest.cells[id]? = some cell) : forest.cellDefect? id cell = none := by
  have sound := wellFormed.sound present
  by_cases isLeaf : cell.isLeaf = true
  · have active : forest.isActive id = true := by
      rw [isActive, Std.ExtTreeSet.contains_iff_mem, wellFormed.active]
      exact ⟨cell, present, isLeaf⟩
    have balanced : cell.tally.buckets.sum = cell.clientCount := sound.tally.balanced.symm
    simp [cellDefect?, isLeaf, active, balanced]
  · have split : cell.isLeaf = false := by simpa using isLeaf
    have inactive : forest.isActive id = false := by
      by_contra active
      rw [Bool.not_eq_false, isActive, Std.ExtTreeSet.contains_iff_mem, wellFormed.active] at active
      obtain ⟨found, foundPresent, foundLeaf⟩ := active
      obtain rfl : cell = found := by simpa [present] using foundPresent
      exact isLeaf foundLeaf
    have empty := sound.split split
    have counted : cell.clientCount = 0 := by rw [Cell.clientCount, empty]; rfl
    have noStray : (cell.children.find? fun child =>
        child.level ≠ id.level + 1 || !id.contains child) = none := by
      rw [List.find?_eq_none]
      intro child member
      obtain ⟨_, level, inside⟩ := wellFormed.child present member
      simp [level, inside]
    have noBuckets : cell.tally.buckets.isEmpty = true := by
      rw [empty]
      exact Std.ExtTreeMap.isEmpty_empty
    simp only [cellDefect?, split, inactive, counted, noBuckets, noStray]
    simp

/-- Neither of two cells lies inside the other. -/
def Apart (first second : CellId) : Prop :=
  first.contains second = false ∧ second.contains first = false

theorem apart_of_level_eq {first second : CellId} (firstIsCell : first.IsCell)
    (secondIsCell : second.IsCell) (level : first.level = second.level)
    (different : first ≠ second) : Apart first second := by
  constructor
  · by_contra inside
    exact different (CellId.eq_of_contains_of_level_eq firstIsCell secondIsCell
      (by simpa using inside) level.symm)
  · by_contra inside
    exact different (CellId.eq_of_contains_of_level_eq secondIsCell firstIsCell
      (by simpa using inside) level).symm

/-- What lies inside a cell lies apart from everything that the cell lies apart from. -/
theorem Apart.of_contains {inner outer : CellId} (idIsCell : id.IsCell) (innerIsCell : inner.IsCell)
    (outerIsCell : outer.IsCell) (inside : id.contains inner = true) (apart : Apart id outer) :
    Apart inner outer := by
  constructor
  · by_contra around
    have within := CellId.contains_trans idIsCell innerIsCell outerIsCell inside
      (by simpa using around)
    simp [apart.1] at within
  · -- two cells around a common cell are not apart
    by_contra around
    have outerAround : outer.contains inner = true := by simpa using around
    rcases Nat.le_total id.level outer.level with coarser | finer
    · have within := CellId.contains_of_common idIsCell outerIsCell innerIsCell inside outerAround
        coarser
      simp [apart.1] at within
    · have within := CellId.contains_of_common outerIsCell idIsCell innerIsCell outerAround inside
        finer
      simp [apart.2] at within

/-- The children of a cell lie around exactly the other cells that it lies around. -/
theorem WellFormed.outside_children_iff (wellFormed : forest.WellFormed topLevel maxLevel)
    (present : forest.cells[id]? = some cell) {other : CellId} (there : other ∈ forest.cells) :
    (∀ child ∈ cell.children, child.contains other = false) ↔
      id = other ∨ id.contains other = false := by
  have isCell := wellFormed.isCell present
  have otherIsCell := wellFormed.isCell_of_mem there
  constructor
  · intro outside
    by_cases same : id = other
    · exact .inl same
    · right
      by_contra around
      obtain ⟨_, otherPresent⟩ := mem_cells_iff.mp there
      obtain ⟨deeper, listed⟩ :=
        wellFormed.shaped.child_toward present otherPresent (by simpa using around) same
      have childOutside := outside _ listed
      simp [CellId.contains_ancestor otherIsCell deeper] at childOutside
  · intro outside child listed
    obtain ⟨childThere, level, inside⟩ := wellFormed.child present listed
    have childIsCell := wellFormed.isCell_of_mem childThere
    by_contra around
    rcases outside with rfl | apart
    · have shallower := CellId.level_le_of_contains childIsCell isCell (by simpa using around)
      omega
    · have within := CellId.contains_trans isCell childIsCell otherIsCell inside
        (by simpa using around)
      simp [apart] at within

/-- Where a walk through a forest stands: the cells that wait lie apart, and the cells that
were met are those inside none of them. -/
structure Walking (forest : Forest) (waiting : List CellId) (met : CellSet) : Prop where
  there : ∀ id ∈ waiting, id ∈ forest.cells
  apart : waiting.Pairwise Apart
  met_iff : ∀ id : CellId, id ∈ met ↔
    id ∈ forest.cells ∧ ∀ outer ∈ waiting, outer.contains id = false

/-- One step of the walk goes on from a cell to its children. -/
theorem Walking.step (wellFormed : forest.WellFormed topLevel maxLevel)
    (walking : Walking forest (id :: waiting) met) (present : forest.cells[id]? = some cell) :
    Walking forest (cell.children ++ waiting) (met.insert id) := by
  have isCell := wellFormed.isCell present
  obtain ⟨idApart, apart⟩ := List.pairwise_cons.mp walking.apart
  have waitingThere : ∀ outer ∈ waiting, outer ∈ forest.cells := fun outer member =>
    walking.there outer (List.mem_cons_of_mem id member)
  refine ⟨?_, ?_, ?_⟩
  · intro other member
    rcases List.mem_append.mp member with isChild | waits
    · exact (wellFormed.child present isChild).1
    · exact waitingThere other waits
  · rw [List.pairwise_append]
    refine ⟨?_, apart, ?_⟩
    · refine (wellFormed.sound present).nodup.imp_of_mem fun {first second} firstMember secondMember
        different => ?_
      obtain ⟨firstThere, firstLevel, _⟩ := wellFormed.child present firstMember
      obtain ⟨secondThere, secondLevel, _⟩ := wellFormed.child present secondMember
      exact apart_of_level_eq (wellFormed.isCell_of_mem firstThere)
        (wellFormed.isCell_of_mem secondThere) (by omega) different
    · intro child childMember outer waits
      obtain ⟨childThere, _, inside⟩ := wellFormed.child present childMember
      exact Apart.of_contains isCell (wellFormed.isCell_of_mem childThere)
        (wellFormed.isCell_of_mem (waitingThere outer waits)) inside (idApart outer waits)
  · intro other
    rw [Std.ExtTreeSet.mem_insert, Std.LawfulEqOrd.compare_eq_iff_eq, walking.met_iff,
      List.forall_mem_cons, List.forall_mem_append]
    constructor
    · rintro (rfl | ⟨there, outside, outsideWaiting⟩)
      · have there := mem_cells_iff.mpr ⟨cell, present⟩
        exact ⟨there, (wellFormed.outside_children_iff present there).mpr (.inl rfl),
          fun outer waits => (idApart outer waits).2⟩
      · exact ⟨there, (wellFormed.outside_children_iff present there).mpr (.inr outside),
          outsideWaiting⟩
    · rintro ⟨there, outsideChildren, outsideWaiting⟩
      exact ((wellFormed.outside_children_iff present there).mp outsideChildren).imp_right
        fun outside => ⟨there, outside, outsideWaiting⟩

theorem size_lt_of_not_mem (inside : ∀ other ∈ met, other ∈ forest.cells)
    (there : id ∈ forest.cells) (notMet : id ∉ met) : met.size < forest.size := by
  have distinct : (id :: met.toList).Nodup := by
    rw [List.nodup_cons, Std.ExtTreeSet.mem_toList]
    exact ⟨notMet, Table.nodup_toList_set met⟩
  have subset : id :: met.toList ⊆ forest.cells.keys := by
    intro other member
    rw [Std.ExtTreeMap.mem_keys]
    rcases List.mem_cons.mp member with rfl | isMet
    · exact there
    · exact inside other (Std.ExtTreeSet.mem_toList.mp isMet)
  have shorter := (List.subperm_of_subset distinct subset).length_le
  rw [List.length_cons, Std.ExtTreeSet.length_toList, Std.ExtTreeMap.length_keys] at shorter
  exact shorter

theorem Walking.not_mem_met (wellFormed : forest.WellFormed topLevel maxLevel)
    (walking : Walking forest (id :: waiting) met) : id ∉ met := by
  intro isMet
  obtain ⟨there, outside⟩ := (walking.met_iff id).mp isMet
  have apart := outside id List.mem_cons_self
  simp [CellId.contains_self (wellFormed.isCell_of_mem there)] at apart

/-- A walk ends well and meets every cell. -/
theorem Walking.walk (wellFormed : forest.WellFormed topLevel maxLevel)
    (walking : Walking forest waiting met) (steps : Nat)
    (enough : forest.size ≤ steps + met.size) :
    ∃ all, forest.walk steps waiting met = .ok all ∧
      ∀ id : CellId, id ∈ all ↔ id ∈ forest.cells := by
  induction steps generalizing waiting met with
  | zero =>
      cases waiting with
      | nil => exact ⟨met, rfl, fun id => by simpa using walking.met_iff id⟩
      | cons id waiting =>
          -- a cell that waits was not met, so there were more steps
          have smaller := size_lt_of_not_mem
            (fun other isMet => ((walking.met_iff other).mp isMet).1)
            (walking.there id List.mem_cons_self) (walking.not_mem_met wellFormed)
          omega
  | succ steps induction =>
      cases waiting with
      | nil => exact ⟨met, rfl, fun id => by simpa using walking.met_iff id⟩
      | cons id waiting =>
          obtain ⟨cell, present⟩ := mem_cells_iff.mp (walking.there id List.mem_cons_self)
          have notMet := walking.not_mem_met wellFormed
          have notContained : met.contains id = false := by
            simpa [← Std.ExtTreeSet.contains_iff_mem] using notMet
          have larger : (met.insert id).size = met.size + 1 := by
            simp [Std.ExtTreeSet.size_insert, notMet]
          have rest := induction (walking.step wellFormed present) (by omega)
          simpa only [Forest.walk, present, notContained, Bool.false_eq_true, ↓reduceIte,
            wellFormed.cellDefect?_eq_none present] using rest

/-- A walk starts at the top cells, which lie apart and around all cells. -/
theorem WellFormed.walking_topCells (wellFormed : forest.WellFormed topLevel maxLevel) :
    Walking forest forest.topCells ∅ := by
  have topFacts : ∀ {top : CellId}, top ∈ forest.topCells →
      top ∈ forest.cells ∧ top.level = topLevel := fun member =>
    (wellFormed.tops _).mp (Std.ExtTreeSet.mem_toList.mp member)
  refine ⟨fun id member => (topFacts member).1, ?_, fun id => ?_⟩
  · refine (Table.nodup_toList_set forest.tops).imp_of_mem fun {first second} firstMember
      secondMember different => ?_
    obtain ⟨firstThere, firstLevel⟩ := topFacts firstMember
    obtain ⟨secondThere, secondLevel⟩ := topFacts secondMember
    exact apart_of_level_eq (wellFormed.isCell_of_mem firstThere)
      (wellFormed.isCell_of_mem secondThere) (firstLevel.trans secondLevel.symm) different
  · simp only [Std.ExtTreeSet.not_mem_empty, false_iff, not_and, not_forall]
    intro there
    obtain ⟨cell, present⟩ := mem_cells_iff.mp there
    have level := (wellFormed.levels present).1
    obtain ⟨top, topPresent⟩ :=
      wellFormed.shaped.exists_ancestor present level (Nat.le_refl topLevel)
    refine ⟨id.ancestor topLevel, ?_, ?_⟩
    · rw [topCells, Std.ExtTreeSet.mem_toList, wellFormed.tops]
      exact ⟨mem_cells_iff.mpr ⟨top, topPresent⟩,
        CellId.level_ancestor id (Nat.le_trans level id.level_le_finest)⟩
    · simp [CellId.contains_ancestor (wellFormed.isCell present) level]

/-- An audit accepts every well-formed forest. -/
theorem WellFormed.audit (wellFormed : forest.WellFormed topLevel maxLevel) :
    forest.audit = .ok () := by
  obtain ⟨all, walked, mem_iff⟩ := wellFormed.walking_topCells.walk wellFormed
    (forest.size + 1) (by omega)
  have sameSize : all.size = forest.size := by
    rw [← Std.ExtTreeSet.length_toList, size, ← Std.ExtTreeMap.length_keys]
    apply List.Perm.length_eq
    rw [List.perm_ext_iff_of_nodup (Table.nodup_toList_set all) Std.ExtTreeMap.nodup_keys]
    intro id
    rw [Std.ExtTreeSet.mem_toList, Std.ExtTreeMap.mem_keys, mem_iff]
  have noStray : (forest.activeCells.any fun id => !all.contains id) = false := by
    rw [List.any_eq_false]
    intro id member
    rw [activeCells, Std.ExtTreeSet.mem_toList, wellFormed.active] at member
    obtain ⟨cell, present, _⟩ := member
    have met : id ∈ all := (mem_iff id).mpr (mem_cells_iff.mpr ⟨cell, present⟩)
    simp [Std.ExtTreeSet.contains_iff_mem.mpr met]
  rw [Forest.audit, walked]
  change (if all.size ≠ forest.size then _
    else if (forest.activeCells.any fun id => !all.contains id) = true then _ else _) = _
  rw [if_neg (by simpa using sameSize), noStray]
  rfl

end Forest

end LoadAtlas
