import LoadAtlas.Forest.Strict
import LoadAtlas.Proofs.Forest.Cascade
import LoadAtlas.Proofs.Forest.Sweep

/-!
# Strict operations on well-formed forests

On a well-formed forest no strict operation stops: every cell that one part of the forest names
is there, every cell that is created was not there before, no cell below the deepest level is
asked for, and every loop ends.  The strict operations are then the plain ones.
-/

namespace LoadAtlas

namespace Forest.Strict

variable {topLevel maxLevel splitThreshold mergeThreshold : Nat} {forest : Forest}
  {location : Location} {id : CellId} {cell : Cell}

@[simp]
theorem ok_bind {First Second : Type} (first : First) (next : First → Except Breach Second) :
    (Except.ok first >>= next) = next first :=
  rfl

@[simp]
theorem error_bind {First Second : Type} (breach : Breach)
    (next : First → Except Breach Second) : (Except.error breach >>= next) = .error breach :=
  rfl

/-- A fold whose steps do not stop is the plain fold. -/
theorem foldlM_eq_ok {State Item : Type} {strict : State → Item → Except Breach State}
    {plain : State → Item → State} (Keeps : State → Prop)
    (keeps : ∀ state item, Keeps state → Keeps (plain state item)) {items : List Item}
    (step : ∀ state, ∀ item ∈ items, Keeps state → strict state item = .ok (plain state item))
    {state : State} (start : Keeps state) :
    items.foldlM strict state = .ok (items.foldl plain state) := by
  induction items generalizing state with
  | nil => rfl
  | cons item items induction =>
      rw [List.foldlM_cons, List.foldl_cons, step state item List.mem_cons_self start, ok_bind]
      exact induction (fun state item member => step state item (List.mem_cons_of_mem _ member))
        (keeps state item start)

theorem expect_of_present (present : forest.cells[id]? = some cell) :
    expect forest id = .ok cell := by
  simp [expect, present]

theorem cellAt_of_le (location : Location) {level : Nat} (allowed : level ≤ maxLevel) :
    cellAt maxLevel location level = .ok (location.cellAt level) :=
  if_neg (Nat.not_lt.mpr allowed)

theorem insertLeaf_of_absent (absent : forest.cells[id]? = none) (leaf : Cell) :
    insertLeaf forest id leaf = .ok (forest.insertLeaf id leaf) := by
  have notThere : id ∉ forest.cells := by
    rw [mem_cells_iff]
    simp [absent]
  simp [insertLeaf, notThere]

theorem removeLeaf_of_present (present : forest.cells[id]? = some cell) :
    removeLeaf forest id = .ok (forest.removeLeaf id) := by
  rw [removeLeaf, expect_of_present present]
  rfl

section Descents

theorem coverBelow_leaf (steps : Nat) (present : forest.cells[id]? = some cell)
    (isLeaf : cell.isLeaf = true) :
    coverBelow location maxLevel (steps + 1) forest id = .ok (forest, id) := by
  simp [coverBelow, expect_of_present present, isLeaf, pure, Except.pure]

theorem insertLeaf_of_new_child {child : CellId} (present : forest.cells[id]? = some cell)
    (absent : forest.cells[child]? = none) :
    insertLeaf (forest.setCell id { cell with children := cell.children ++ [child] }) child
      Cell.empty = .ok (forest.withChild id cell child) := by
  have different : id ≠ child := by
    rintro rfl
    simp [absent] at present
  refine insertLeaf_of_absent ?_ Cell.empty
  rw [cells_setCell, Std.ExtTreeMap.getElem?_insert, if_neg (by simpa using different), absent]

variable (wellFormed : forest.WellFormed topLevel maxLevel)

include wellFormed

theorem locateBelow_eq_ok {steps : Nat} (reach : id.level + steps = maxLevel)
    (falls : location.FallsInto id) (present : forest.cells[id]? = some cell) :
    locateBelow forest location maxLevel (steps + 1) id =
      .ok (forest.locateBelow location.finestCell steps id) := by
  induction steps generalizing id cell with
  | zero =>
      have isLeaf := wellFormed.isLeaf_of_deepest present (by omega)
      have member : id ∈ forest.cells := mem_cells_iff.mpr ⟨cell, present⟩
      simp [locateBelow, expect_of_present present, isLeaf, Forest.locateBelow, member, pure,
        Except.pure]
  | succ steps induction =>
      by_cases isLeaf : cell.isLeaf = true
      · rw [locateBelow_of_leaf _ present isLeaf]
        simp [locateBelow, expect_of_present present, isLeaf, pure, Except.pure]
      · have room : ¬ maxLevel ≤ id.level := by omega
        have child := cellAt_of_le location (show id.level + 1 ≤ maxLevel by omega)
        rw [locateBelow, expect_of_present present, ok_bind, if_neg (by simp [isLeaf, room]), child,
          ok_bind]
        by_cases listed : location.childAt id ∈ cell.children
        · obtain ⟨childMember, level, _⟩ := wellFormed.child present listed
          obtain ⟨childCell, childPresent⟩ := mem_cells_iff.mp childMember
          rw [locateBelow_of_listed present listed]
          have childReach : (location.childAt id).level + steps = maxLevel := by omega
          refine (if_pos (by simpa [Location.childAt] using listed)).trans ?_
          exact induction childReach (wellFormed.fallsInto_of_childAt_mem present listed)
            childPresent
        · rw [locateBelow_of_unlisted present (by simpa using isLeaf) listed]
          exact if_neg (by simpa [Location.childAt] using listed)

theorem locate_eq_ok (ordered : topLevel ≤ maxLevel) (bounded : maxLevel ≤ CellId.finestLevel)
    (location : Location) : locate forest location topLevel maxLevel =
      .ok (forest.locate? location topLevel maxLevel) := by
  have topBounded := Nat.le_trans ordered bounded
  have level : (location.cellAt topLevel).level = topLevel := location.level_cellAt topBounded
  rw [locate, cellAt_of_le location ordered, ok_bind]
  cases present : forest.cells[location.cellAt topLevel]? with
  | none =>
      have notThere : location.cellAt topLevel ∉ forest.cells := by
        rw [mem_cells_iff]
        simp [present]
      have nothing : forest.locate? location topLevel maxLevel = none := by
        rw [wellFormed.locate?_eq_none_iff ordered bounded]
        rintro leaf ⟨falls, leafCell, leafPresent, _⟩
        have deeper := (wellFormed.levels leafPresent).1
        obtain ⟨top, topPresent⟩ :=
          wellFormed.shaped.exists_ancestor leafPresent deeper (Nat.le_refl topLevel)
        rw [← falls, location.ancestor_cellAt deeper, present] at topPresent
        simp at topPresent
      rw [nothing]
      simp [notThere, pure, Except.pure]
  | some top =>
      have there : location.cellAt topLevel ∈ forest.cells := mem_cells_iff.mpr ⟨top, present⟩
      refine (if_pos (by simpa using there)).trans ?_
      exact locateBelow_eq_ok wellFormed (by omega) (location.fallsInto_cellAt topBounded) present

theorem coverBelow_eq_ok (bounded : maxLevel ≤ CellId.finestLevel) {steps : Nat}
    (reach : id.level + steps = maxLevel) (falls : location.FallsInto id)
    (present : forest.cells[id]? = some cell) :
    coverBelow location maxLevel (steps + 1) forest id =
      .ok (forest.coverBelow location.finestCell steps id) := by
  induction steps generalizing id cell with
  | zero =>
      have isLeaf := wellFormed.isLeaf_of_deepest present (by omega)
      exact coverBelow_leaf 0 present isLeaf
  | succ steps induction =>
      by_cases isLeaf : cell.isLeaf = true
      · rw [coverBelow_of_leaf _ present isLeaf]
        exact coverBelow_leaf _ present isLeaf
      · have room : ¬ maxLevel ≤ id.level := by omega
        have child := cellAt_of_le location (show id.level + 1 ≤ maxLevel by omega)
        rw [coverBelow, expect_of_present present, ok_bind, if_neg (by simp [isLeaf, room]), child,
          ok_bind]
        by_cases listed : location.childAt id ∈ cell.children
        · obtain ⟨childMember, level, _⟩ := wellFormed.child present listed
          obtain ⟨childCell, childPresent⟩ := mem_cells_iff.mp childMember
          rw [coverBelow_of_listed present listed]
          have childReach : (location.childAt id).level + steps = maxLevel := by omega
          refine (if_pos (by simpa [Location.childAt] using listed)).trans ?_
          exact induction childReach (wellFormed.fallsInto_of_childAt_mem present listed)
            childPresent
        · have absent := wellFormed.shaped.childAt_absent present (by omega) falls listed
          have inserted := insertLeaf_of_new_child present absent
          have created : (forest.withChild id cell (location.childAt id)).cells[
              location.childAt id]? = some Cell.empty := by
            rw [getElem?_withChild, if_pos rfl]
          rw [coverBelow_of_unlisted present (by simpa using isLeaf) listed]
          refine (if_neg (by simpa [Location.childAt] using listed)).trans ?_
          change (insertLeaf (forest.setCell id
            { cell with children := cell.children ++ [location.childAt id] })
              (location.childAt id) Cell.empty >>= fun opened =>
                coverBelow location maxLevel (steps + 1) opened (location.childAt id)) = _
          rw [inserted, ok_bind]
          -- the new child is a leaf, so the next step is the last one
          exact coverBelow_leaf steps created Cell.isLeaf_empty

theorem cover_eq_ok (ordered : topLevel ≤ maxLevel) (bounded : maxLevel ≤ CellId.finestLevel)
    (location : Location) : cover forest location topLevel maxLevel =
      .ok (forest.cover location topLevel maxLevel) := by
  have topBounded := Nat.le_trans ordered bounded
  have level : (location.cellAt topLevel).level = topLevel := location.level_cellAt topBounded
  have falls := location.fallsInto_cellAt topBounded
  rw [cover, cellAt_of_le location ordered, ok_bind]
  cases present : forest.cells[location.cellAt topLevel]? with
  | some top =>
      have there : location.cellAt topLevel ∈ forest.cells := mem_cells_iff.mpr ⟨top, present⟩
      rw [cover_of_present present, if_pos (by simpa using there)]
      exact coverBelow_eq_ok wellFormed bounded (by omega) falls present
  | none =>
      have notThere : location.cellAt topLevel ∉ forest.cells := by
        rw [mem_cells_iff]
        simp [present]
      let rooted := { forest with tops := forest.tops.insert (location.cellAt topLevel) }
      have vacant : rooted.cells[location.cellAt topLevel]? = none := present
      have planted := insertLeaf_of_absent vacant Cell.empty
      have created := getElem?_withTop forest (location.cellAt topLevel) (location.cellAt topLevel)
      rw [if_pos rfl] at created
      rw [cover_of_absent present, if_neg (by simpa using notThere), planted, ok_bind]
      exact coverBelow_eq_ok
        (wellFormed.withTop present (location.isCell_cellAt topBounded) level ordered) bounded
        (by omega) falls created

end Descents

section Splits

variable {refining : Refining} {groups : List (CellId × BucketTable)}

theorem groupByChild_eq_ok (buckets : BucketTable) (room : id.level < maxLevel) :
    groupByChild maxLevel buckets id = .ok (buckets.groupByChild id) := by
  rw [BucketTable.groupByChild_eq_foldl]
  refine foldlM_eq_ok (fun _ => True) (fun _ _ _ => trivial) (fun groups entry _ _ => ?_) trivial
  rw [cellAt_of_le entry.2.location room, ok_bind]
  rfl

theorem foldlM_addGroup_eq_ok (distinct : (groups.map Prod.fst).Nodup)
    (absent : ∀ group ∈ groups, refining.forest.cells[group.1]? = none) :
    groups.foldlM (addGroup splitThreshold maxLevel) refining =
      .ok (groups.foldl (Forest.addGroup splitThreshold maxLevel) refining) := by
  induction groups generalizing refining with
  | nil => rfl
  | cons group groups induction =>
      rw [List.map_cons, List.nodup_cons] at distinct
      rw [List.foldlM_cons, addGroup, insertLeaf_of_absent (absent group List.mem_cons_self),
        ok_bind]
      refine @induction (Forest.addGroup splitThreshold maxLevel refining group) distinct.2
        fun later member => ?_
      have different : group.1 ≠ later.1 := fun same =>
        distinct.1 (same ▸ List.mem_map_of_mem member)
      have stillAbsent := absent later (List.mem_cons_of_mem _ member)
      simpa [Forest.addGroup, Std.ExtTreeMap.getElem?_insert, different] using stillAbsent

theorem foldl_splitCell_of_deepest {ids : List CellId} (deepest : ∀ id ∈ ids, maxLevel ≤ id.level) :
    ids.foldl (Forest.splitCell splitThreshold maxLevel) refining = refining := by
  induction ids with
  | nil => rfl
  | cons id ids induction =>
      obtain ⟨here, later⟩ := List.forall_mem_cons.mp deepest
      have idle : Forest.splitCell splitThreshold maxLevel refining id = refining :=
        splitCell_of_not_overfull fun ⟨_, _, _, _, room⟩ => Nat.not_lt_of_le here room
      rw [List.foldl_cons, idle]
      exact induction later

/-- The children of a cell that a cascade may come to are not there before its split. -/
def ChildrenNew (splitThreshold maxLevel : Nat) (Known : Forest → Nat → Prop)
    (Reached : CellId → Prop) : Prop :=
  ∀ {forest : Forest} {count : Nat} {id : CellId} {cell : Cell}, Known forest count →
    Reached id → forest.cells[id]? = some cell → cell.isLeaf = true →
      splitThreshold < cell.clientCount → id.level < maxLevel →
        ∀ child ∈ cell.tally.buckets.groupByChild id, forest.cells[child]? = none

section Cascades

variable {Known : Forest → Nat → Prop} {Reached : CellId → Prop}
  (cascading : Cascading splitThreshold maxLevel Known Reached)
  (new : ChildrenNew splitThreshold maxLevel Known Reached)
  (bounded : maxLevel ≤ CellId.finestLevel)

include new bounded

theorem splitCell_eq_ok (ongoing : Ongoing Known Reached refining) (reached : Reached id) :
    splitCell splitThreshold maxLevel refining id =
      .ok (Forest.splitCell splitThreshold maxLevel refining id) := by
  cases present : refining.forest.cells[id]? with
  | none => simp [splitCell, Forest.splitCell, present]
  | some cell =>
      by_cases idle : ¬ cell.isLeaf ∨ cell.clientCount ≤ splitThreshold ∨ maxLevel ≤ id.level
      · simp only [splitCell, Forest.splitCell, present, if_pos idle]
      · obtain ⟨isLeaf, full, room⟩ : cell.isLeaf = true ∧ splitThreshold < cell.clientCount ∧
            id.level < maxLevel := by grind
        simp only [splitCell, Forest.splitCell, present, if_neg idle,
          groupByChild_eq_ok cell.tally.buckets room, ok_bind]
        refine foldlM_addGroup_eq_ok (Table.nodup_map_fst_toList _) fun group member => ?_
        have isGroup := BucketTable.mem_groupByChild_of_mem_toList member
        have level := BucketTable.level_of_group (Nat.lt_of_lt_of_le room bounded) isGroup
        have different : id ≠ group.1 := by
          intro same
          rw [← same] at level
          omega
        have absent := new ongoing.known reached present isLeaf full room group.1 isGroup
        simp [Std.ExtTreeMap.getElem?_insert, different, absent]

include cascading

theorem foldlM_splitCell_eq_ok {ids : List CellId} (ongoing : Ongoing Known Reached refining)
    (reached : ∀ id ∈ ids, Reached id) :
    ids.foldlM (splitCell splitThreshold maxLevel) refining =
      .ok (ids.foldl (Forest.splitCell splitThreshold maxLevel) refining) := by
  induction ids generalizing refining with
  | nil => rfl
  | cons id ids induction =>
      obtain ⟨here, later⟩ := List.forall_mem_cons.mp reached
      rw [List.foldlM_cons, List.foldl_cons, splitCell_eq_ok new bounded ongoing here, ok_bind]
      exact induction (cascading.splitCell ongoing here) later

/-- After as many levels as there are, no cell waits any more. -/
theorem splitLevels_eq_ok (ongoing : Ongoing Known Reached refining) {levels : Nat}
    (reach : ∀ id ∈ refining.waiting, maxLevel ≤ id.level + levels) :
    ∃ refined, splitLevels splitThreshold maxLevel (levels + 1) refining = .ok refined ∧
      refined.forest = (Forest.splitLevels splitThreshold maxLevel levels refining).forest ∧
      refined.splits = (Forest.splitLevels splitThreshold maxLevel levels refining).splits := by
  induction levels generalizing refining with
  | zero =>
      let taken : Refining := { refining with waiting := [] }
      have fold : refining.waiting.foldlM (splitCell splitThreshold maxLevel) taken = .ok _ :=
        foldlM_splitCell_eq_ok cascading new bounded ongoing.taken ongoing.reached
      have idle : refining.waiting.foldl (Forest.splitCell splitThreshold maxLevel) taken = taken :=
        foldl_splitCell_of_deepest (by simpa using reach)
      refine ⟨taken, ?_, rfl, rfl⟩
      rw [splitLevels, fold, ok_bind, idle]
      rfl
  | succ levels induction =>
      rw [splitLevels, foldlM_splitCell_eq_ok cascading new bounded ongoing.taken ongoing.reached,
        ok_bind]
      exact induction (cascading.nextLevel ongoing) (reach_nextLevel bounded reach)

/-- A cascade does not stop if the children of the cells that it splits are new. -/
theorem splitCascade_of_childrenNew (known : Known forest 0) (reached : Reached id) :
    splitCascade forest id splitThreshold maxLevel =
      .ok (forest.splitCascade id splitThreshold maxLevel) := by
  have reach : ∀ waiting ∈ [id], maxLevel ≤ waiting.level + (maxLevel - id.level) := by
    simp only [List.mem_singleton, forall_eq]
    omega
  have ongoing : Ongoing Known Reached ⟨forest, [id], 0⟩ :=
    ⟨known, List.forall_mem_singleton.mpr reached⟩
  obtain ⟨refined, done, sameForest, sameSplits⟩ :=
    splitLevels_eq_ok cascading new bounded ongoing reach
  rw [splitCascade, done, ok_bind, sameForest, sameSplits]
  rfl

end Cascades

theorem splitCascade_eq_ok (wellFormed : forest.WellFormed topLevel maxLevel)
    (bounded : maxLevel ≤ CellId.finestLevel) (id : CellId) :
    splitCascade forest id splitThreshold maxLevel =
      .ok (forest.splitCascade id splitThreshold maxLevel) := by
  have cascading : Cascading splitThreshold maxLevel
      (fun after _ => after.WellFormed topLevel maxLevel) fun _ => True :=
    ⟨fun known _ present isLeaf full room =>
      ⟨(known.kept_split present isLeaf full room bounded).wellFormed, fun _ _ => trivial⟩⟩
  refine splitCascade_of_childrenNew cascading ?_ bounded wellFormed trivial
  intro forest count id cell known _ present isLeaf _ room child member
  exact (known.shaped.child_of_group present isLeaf (known.sound present).placed room bounded
    member).2.2.2

end Splits

section Sweeps

theorem leafChildren_eq_ok {children : List CellId}
    (there : ∀ child ∈ children, child ∈ forest.cells) :
    leafChildren forest children = .ok (children.mapM forest.leafNamed?) := by
  induction children with
  | nil => rfl
  | cons child children induction =>
      obtain ⟨here, later⟩ := List.forall_mem_cons.mp there
      obtain ⟨cell, present⟩ := mem_cells_iff.mp here
      rw [leafChildren, expect_of_present present, ok_bind, List.mapM_cons]
      by_cases isLeaf : cell.isLeaf = true
      · have named : forest.leafNamed? child = some (child, cell) :=
          leafNamed?_eq_some_iff.mpr ⟨rfl, present, isLeaf⟩
        rw [if_pos isLeaf, induction later, ok_bind, named]
        cases children.mapM forest.leafNamed? <;> rfl
      · have unnamed : forest.leafNamed? child = none := by
          simp [leafNamed?, present, isLeaf]
        rw [if_neg isLeaf, unnamed]
        rfl

theorem foldlM_removeLeaf_eq_ok {leaves : List (CellId × Cell)}
    (distinct : (leaves.map Prod.fst).Nodup)
    (present : ∀ leaf ∈ leaves, forest.cells[leaf.1]? = some leaf.2) :
    leaves.foldlM (fun forest leaf => removeLeaf forest leaf.1) forest =
      .ok (forest.clear leaves) := by
  induction leaves generalizing forest with
  | nil => rfl
  | cons leaf leaves induction =>
      rw [List.map_cons, List.nodup_cons] at distinct
      rw [List.foldlM_cons, removeLeaf_of_present (present leaf List.mem_cons_self), ok_bind]
      refine induction distinct.2 fun later member => ?_
      have different : leaf.1 ≠ later.1 := fun same =>
        distinct.1 (same ▸ List.mem_map_of_mem member)
      rw [cells_removeLeaf, Std.ExtTreeMap.getElem?_erase, if_neg (by simpa using different)]
      exact present later (List.mem_cons_of_mem _ member)

theorem merge_eq_ok (wellFormed : forest.WellFormed topLevel maxLevel)
    (member : id ∈ forest.cells) :
    merge mergeThreshold forest id = .ok (forest.merge? id mergeThreshold) := by
  obtain ⟨cell, present⟩ := mem_cells_iff.mp member
  have asked : leafChildren forest cell.children = .ok (forest.leafChildren? cell) :=
    leafChildren_eq_ok fun child listed => (wellFormed.child present listed).1
  rw [merge, expect_of_present present, ok_bind, asked, ok_bind]
  cases found : forest.leafChildren? cell with
  | none => simp [merge?, present, found, pure, Except.pure]
  | some leaves =>
      have areLeaves := leafChildren?_eq_some_iff.mp found
      have cleared := foldlM_removeLeaf_eq_ok (wellFormed.nodup_leaves present areLeaves)
        areLeaves.present
      have stillPresent : (forest.clear leaves).cells[id]? = some cell := by
        rw [getElem?_clear_of_not_mem (wellFormed.not_mem_leaves present areLeaves), present]
      by_cases full : mergeThreshold ≤ (leaves.map fun leaf => leaf.2.clientCount).sum
      · simp only [merge?, present, found, if_pos full]
        rfl
      · simp only [merge?, present, found, if_neg full, cleared, ok_bind,
          expect_of_present stillPresent]
        rfl

theorem mapM_expect {ids : List CellId} (there : ∀ id ∈ ids, id ∈ forest.cells) :
    ∃ cells, ids.mapM (expect forest) = .ok cells := by
  induction ids with
  | nil => exact ⟨[], rfl⟩
  | cons id ids induction =>
      obtain ⟨here, later⟩ := List.forall_mem_cons.mp there
      obtain ⟨cell, present⟩ := mem_cells_iff.mp here
      obtain ⟨cells, rest⟩ := induction later
      refine ⟨cell :: cells, ?_⟩
      rw [List.mapM_cons, expect_of_present present, ok_bind, rest]
      rfl

/-- A breadth-first search comes only to cells that are there, and ends with the levels. -/
theorem splitCellsFrom_eq_ok (wellFormed : forest.WellFormed topLevel maxLevel)
    {ids : List CellId} {level levels : Nat} (reach : CellId.finestLevel < level + levels)
    (there : ∀ id ∈ ids, id ∈ forest.cells ∧ id.level = level) (distinct : ids.Nodup) :
    splitCellsFrom forest levels ids = .ok (forest.splitCellsFrom levels ids) := by
  induction levels generalizing ids level with
  | zero =>
      cases ids with
      | nil => rfl
      | cons id ids =>
          have idLevel := (there id List.mem_cons_self).2
          have bounded := id.level_le_finest
          omega
  | succ levels induction =>
      obtain ⟨cells, found⟩ := mapM_expect fun id member => (there id member).1
      obtain ⟨nextThere, nextDistinct⟩ := wellFormed.next_level
        (fun id member => there id (List.mem_filter.mp member).1) (distinct.filter forest.isSplit)
      rw [splitCellsFrom, found, ok_bind]
      have deeper : CellId.finestLevel < level + 1 + levels := by omega
      simp only [induction deeper nextThere nextDistinct, ok_bind]
      rfl

variable {before : Forest} {done pending : List CellId} {sweeping : Sweeping}

/-- Where a sweep may come to a cell, the cell is merged in the plain way or, if it does not fit,
not at all. -/
structure Merging (topLevel maxLevel mergeThreshold : Nat) (before : Forest) (Fits : CellId → Prop)
    (merge : Forest → CellId → Except Breach (Option Forest)) : Prop where
  plain : ∀ {done : List CellId} {sweeping : Sweeping} {id : CellId},
    Underway topLevel maxLevel mergeThreshold before done sweeping → Due before done id → Fits id →
      merge sweeping.forest id = .ok (sweeping.forest.merge? id mergeThreshold)
  stops : ∀ {done : List CellId} {sweeping : Sweeping} {id : CellId},
    Underway topLevel maxLevel mergeThreshold before done sweeping → Due before done id → ¬ Fits id →
      merge sweeping.forest id = .error (.overflow id)

namespace Merging

variable {Fits : CellId → Prop} {merge : Forest → CellId → Except Breach (Option Forest)}

section

variable (merging : Merging topLevel maxLevel mergeThreshold before Fits merge)
  (wellFormed : before.WellFormed topLevel maxLevel)

include merging wellFormed

/-- A sweep goes through its list in the plain way up to the first cell that does not fit. -/
theorem foldlM_mergeCell
    (underway : Underway topLevel maxLevel mergeThreshold before done sweeping)
    (queue : Queue before done pending) :
    ((∀ id ∈ pending, Fits id) ∧ pending.foldlM (mergeCell merge) sweeping =
      .ok (pending.foldl (Forest.mergeCell mergeThreshold) sweeping)) ∨
    ∃ id ∈ pending, ¬ Fits id ∧
      pending.foldlM (mergeCell merge) sweeping = .error (.overflow id) := by
  induction pending generalizing done sweeping with
  | nil => exact .inl ⟨fun _ => nofun, rfl⟩
  | cons id pending induction =>
      by_cases fits : Fits id
      · have here : mergeCell merge sweeping id =
            .ok (Forest.mergeCell mergeThreshold sweeping id) := by
          rw [mergeCell, merging.plain underway queue.due fits, ok_bind, Forest.mergeCell]
          cases sweeping.forest.merge? id mergeThreshold <;> rfl
        rw [List.foldlM_cons, here, ok_bind]
        rcases induction (underway.mergeCell wellFormed queue.due) queue.tail with
          ⟨all, done⟩ | ⟨other, member, stopped⟩
        · exact .inl ⟨List.forall_mem_cons.mpr ⟨fits, all⟩, done⟩
        · exact .inr ⟨other, List.mem_cons_of_mem id member, stopped⟩
      · have here : mergeCell merge sweeping id = .error (.overflow id) := by
          rw [mergeCell, merging.stops underway queue.due fits, error_bind]
        rw [List.foldlM_cons, here]
        exact .inr ⟨id, List.mem_cons_self, fits, rfl⟩

theorem foldlM_mergeBelow {tops later : List CellId}
    (through : Through topLevel maxLevel mergeThreshold before tops done sweeping)
    (areTops : ∀ id ∈ tops ++ later, id ∈ before.tops) (distinct : (tops ++ later).Nodup) :
    ((∀ id, before.isSplit id = true → (∃ top ∈ later, top.contains id = true) → Fits id) ∧
      later.foldlM (mergeBelow merge) sweeping =
        .ok (later.foldl (Forest.mergeBelow mergeThreshold) sweeping)) ∨
    ∃ id, before.isSplit id = true ∧ ¬ Fits id ∧
      later.foldlM (mergeBelow merge) sweeping = .error (.overflow id) := by
  induction later generalizing tops done sweeping with
  | nil => exact .inl ⟨fun _ _ around => absurd around (by simp), rfl⟩
  | cons top later induction =>
      obtain ⟨headTops, fresh⟩ := tops_step areTops distinct
      have topMember := through.top_mem wellFormed headTops fresh
      have reach : CellId.finestLevel < top.level + (CellId.finestLevel + 1) := by omega
      have there : ∀ id ∈ [top], id ∈ sweeping.forest.cells ∧ id.level = top.level := by
        simp [topMember]
      have candidates := splitCellsFrom_eq_ok through.underway.wellFormed reach there
        (List.nodup_singleton top)
      have listed (id : CellId) : id ∈ (sweeping.forest.splitCells top).reverse ↔
          before.isSplit id = true ∧ top.contains id = true :=
        through.mem_splitCells_iff wellFormed headTops fresh
      have here : mergeBelow merge sweeping top =
          (sweeping.forest.splitCells top).reverse.foldlM (mergeCell merge) sweeping := by
        rw [mergeBelow, candidates]
        rfl
      rw [List.foldlM_cons, here]
      rcases merging.foldlM_mergeCell wellFormed through.underway
        (through.queue wellFormed headTops fresh) with ⟨fits, swept⟩ | ⟨id, member, fits, stopped⟩
      · rw [swept, ok_bind]
        rcases induction (through.mergeBelow wellFormed headTops fresh) (by simpa using areTops)
          (by simpa using distinct) with ⟨all, done⟩ | stopped
        · refine .inl ⟨fun id split around => ?_, done⟩
          obtain ⟨outer, member, inside⟩ := around
          rcases List.mem_cons.mp member with rfl | other
          · exact fits id ((listed id).mpr ⟨split, inside⟩)
          · exact all id split ⟨outer, other, inside⟩
        · exact .inr stopped
      · rw [stopped]
        exact .inr ⟨id, ((listed id).mp member).1, fits, rfl⟩

/-- A sweep is the plain one if every split cell fits, and else stops at one that does not. -/
theorem sweepBy_cases :
    ((∀ id, before.isSplit id = true → Fits id) ∧
      sweepBy merge before = .ok (before.mergeSweep mergeThreshold)) ∨
    ∃ id, before.isSplit id = true ∧ ¬ Fits id ∧
      sweepBy merge before = .error (.overflow id) := by
  have areTops : ∀ id ∈ [] ++ before.topCells, id ∈ before.tops := fun id member =>
    mem_topCells.mp (by simpa using member)
  rw [sweepBy]
  rcases merging.foldlM_mergeBelow wellFormed (through_start wellFormed mergeThreshold) areTops
    before.nodup_topCells with ⟨all, swept⟩ | ⟨id, split, fits, stopped⟩
  · refine .inl ⟨fun id split => all id split ?_, by rw [swept]; rfl⟩
    obtain ⟨cell, present, _⟩ := isSplit_iff.mp split
    exact wellFormed.exists_top_around present
  · exact .inr ⟨id, split, fits, by rw [stopped]; rfl⟩

end

end Merging

theorem mergeSweep_eq_ok (wellFormed : forest.WellFormed topLevel maxLevel)
    (mergeThreshold : Nat) :
    mergeSweep forest mergeThreshold = .ok (forest.mergeSweep mergeThreshold) := by
  have merging : Merging topLevel maxLevel mergeThreshold forest (fun _ => True)
      (merge mergeThreshold) :=
    ⟨fun underway due _ =>
      merge_eq_ok underway.wellFormed (underway.present_of_due wellFormed due).1,
      fun _ _ fits => absurd trivial fits⟩
  rcases merging.sweepBy_cases wellFormed with ⟨_, swept⟩ | ⟨_, _, fits, _⟩
  · exact swept
  · exact absurd trivial fits

end Sweeps

end Forest.Strict

end LoadAtlas
