import LoadAtlas.Proofs.Forest.Branches
import LoadAtlas.Proofs.Forest.Inside
import LoadAtlas.Proofs.Forest.Refine

/-!
# Cascades

A cascade splits one leaf after the other, each of them too full and above the deepest level.
What one such split keeps or changes, a cascade keeps or changes as often as it splits: it is
well formed afterwards, holds the same clients, and has one more branch for every split that it
counts.

A cascade works off a list.  At any time every leaf that is too full is about to be split or
waits for the next level, and the cells that wait are so deep that the levels left suffice.  So
when the cascade ends no leaf is too full.
-/

namespace LoadAtlas

namespace Forest

/-- A leaf that holds too many clients and could be split. -/
def Overfull (splitThreshold maxLevel : Nat) (forest : Forest) (id : CellId) : Prop :=
  ∃ cell : Cell, forest.cells[id]? = some cell ∧ cell.isLeaf = true ∧
    splitThreshold < cell.clientCount ∧ id.level < maxLevel

/-- No leaf is left that holds too many clients and could be split. -/
def Calm (splitThreshold maxLevel : Nat) (forest : Forest) : Prop :=
  ∀ id, ¬ forest.Overfull splitThreshold maxLevel id

theorem calm_empty (splitThreshold maxLevel : Nat) : empty.Calm splitThreshold maxLevel := by
  rintro id ⟨cell, present, _⟩
  simp [empty] at present

/-- Groups of buckets whose leaves are too full from the start. -/
def fullGroups (splitThreshold maxLevel : Nat) (groups : List (CellId × BucketTable)) :
    List CellId :=
  (groups.filter fun group =>
    splitThreshold < (groupLeaf group.2).clientCount ∧ group.1.level < maxLevel).map Prod.fst

variable {topLevel maxLevel splitThreshold : Nat} {before after forest : Forest}
  {id other : CellId} {cell : Cell} {refining : Refining} {count : Nat}

/-! ## One cell -/

theorem mem_fullGroups_iff {groups : List (CellId × BucketTable)} :
    other ∈ fullGroups splitThreshold maxLevel groups ↔ ∃ table, (other, table) ∈ groups ∧
      splitThreshold < (groupLeaf table).clientCount ∧ other.level < maxLevel := by
  simp [fullGroups]

theorem foldl_addGroup (groups : List (CellId × BucketTable)) (refining : Refining) :
    groups.foldl (addGroup splitThreshold maxLevel) refining =
      ⟨refining.forest.addGroups groups,
        refining.waiting ++ fullGroups splitThreshold maxLevel groups, refining.splits⟩ := by
  induction groups generalizing refining with
  | nil => simp [addGroups, fullGroups]
  | cons group groups induction =>
      rw [List.foldl_cons, induction]
      by_cases full : splitThreshold < (groupLeaf group.2).clientCount ∧ group.1.level < maxLevel
      · simp [addGroup, addGroups, fullGroups, full]
      · simp only [addGroup, addGroups, fullGroups, if_neg full, List.foldl_cons]
        rw [List.filter_cons_of_neg (by simpa using full)]

theorem splitCell_of_not_overfull (idle : ¬ refining.forest.Overfull splitThreshold maxLevel id) :
    splitCell splitThreshold maxLevel refining id = refining := by
  cases present : refining.forest.cells[id]? with
  | none => simp [splitCell, present]
  | some cell =>
      simp only [splitCell, present]
      refine if_pos ?_
      by_contra due
      exact idle ⟨cell, present, by grind, by grind, by grind⟩

theorem splitCell_of_overfull (present : refining.forest.cells[id]? = some cell)
    (isLeaf : cell.isLeaf = true) (full : splitThreshold < cell.clientCount)
    (room : id.level < maxLevel) : splitCell splitThreshold maxLevel refining id =
      ⟨refining.forest.split id cell, refining.waiting ++
        fullGroups splitThreshold maxLevel (cell.tally.buckets.groupByChild id).toList,
        refining.splits + 1⟩ := by
  have due : ¬ (¬ cell.isLeaf ∨ cell.clientCount ≤ splitThreshold ∨ maxLevel ≤ id.level) := by
    grind
  simp only [splitCell, present]
  rw [if_neg due, foldl_addGroup]
  rfl

namespace Shaped

variable (shaped : forest.Shaped topLevel maxLevel)
  (present : forest.cells[id]? = some cell) (isLeaf : cell.isLeaf = true)
  (placed : cell.tally.buckets.PlacedIn id) (room : id.level < maxLevel)
  (bounded : maxLevel ≤ CellId.finestLevel) (nonempty : 0 < cell.tally.buckets.sum)

include shaped present isLeaf placed room bounded nonempty

theorem isSplit_split_iff : (forest.split id cell).isSplit other = true ↔
    other = id ∨ forest.isSplit other = true := by
  have grown := shaped.grown_split present isLeaf placed room bounded
  rw [isSplit_iff]
  constructor
  · rintro ⟨found, later, split⟩
    rcases origin_split later with ⟨same, _⟩ | ⟨table, _, rfl⟩ | ⟨_, earlier⟩
    · exact .inl same
    · simp [groupLeaf, Cell.isLeaf] at split
    · exact .inr (isSplit_iff.mpr ⟨found, earlier, split⟩)
  · rintro (rfl | split)
    · obtain ⟨old, new, _, later, children⟩ := grown.parent
      refine ⟨new, later, Cell.isLeaf_eq_false_iff.mpr ?_⟩
      rw [children]
      exact List.append_ne_nil_of_right_ne_nil _ (BucketTable.keys_groupByChild_ne_nil nonempty _)
    · obtain ⟨found, earlier, hasChildren⟩ := isSplit_iff.mp split
      obtain ⟨new, later, subset⟩ := grown.exists_later earlier
      refine ⟨new, later, Cell.isLeaf_eq_false_iff.mpr fun none => ?_⟩
      exact Cell.isLeaf_eq_false_iff.mp hasChildren (List.subset_nil.mp (none ▸ subset))

theorem length_branches_split :
    (forest.split id cell).branches.length = forest.branches.length + 1 := by
  have notBranch : id ∉ forest.branches := by
    rw [mem_branches_iff, isSplit_iff]
    rintro ⟨found, foundPresent, split⟩
    simp_all
  have perm := branches_perm (List.nodup_cons.mpr ⟨notBranch, forest.nodup_branches⟩) fun other =>
    (show other ∈ id :: forest.branches ↔ _ by
      rw [shaped.isSplit_split_iff present isLeaf placed room bounded nonempty, List.mem_cons,
        mem_branches_iff])
  rw [perm.length_eq, List.length_cons]

end Shaped

section Split

variable (wellFormed : forest.WellFormed topLevel maxLevel)
  (present : forest.cells[id]? = some cell) (isLeaf : cell.isLeaf = true)
  (full : splitThreshold < cell.clientCount) (room : id.level < maxLevel)
  (bounded : maxLevel ≤ CellId.finestLevel)

include wellFormed present isLeaf full room bounded

theorem WellFormed.kept_split : Kept topLevel maxLevel forest (forest.split id cell) where
  wellFormed := wellFormed.split present isLeaf room bounded (Nat.zero_lt_of_lt full)
  weigh := wellFormed.weigh_split present isLeaf room bounded

theorem WellFormed.isSplit_split_iff : (forest.split id cell).isSplit other = true ↔
    other = id ∨ forest.isSplit other = true :=
  wellFormed.shaped.isSplit_split_iff present isLeaf (wellFormed.sound present).placed room bounded
    ((wellFormed.sound present).tally.balanced ▸ Nat.zero_lt_of_lt full)

theorem WellFormed.length_branches_split :
    (forest.split id cell).branches.length = forest.branches.length + 1 :=
  wellFormed.shaped.length_branches_split present isLeaf (wellFormed.sound present).placed room
    bounded ((wellFormed.sound present).tally.balanced ▸ Nat.zero_lt_of_lt full)

theorem WellFormed.clientsInside_pos_of_split
    (populated : ∀ id ∈ forest.cells, 0 < forest.clientsInside id)
    (member : other ∈ (forest.split id cell).cells) :
    0 < (forest.split id cell).clientsInside other := by
  have kept := wellFormed.kept_split present isLeaf full room bounded
  obtain ⟨found, later⟩ := mem_cells_iff.mp member
  rw [kept.clientsInside]
  rcases origin_split later with ⟨rfl, _⟩ | ⟨table, held, _⟩ | ⟨_, earlier⟩
  · exact populated other (mem_cells_iff.mpr ⟨cell, present⟩)
  · have isGroup : other ∈ cell.tally.buckets.groupByChild id := by
      rw [Std.ExtTreeMap.mem_iff_isSome_getElem?, held]
      rfl
    obtain ⟨key, bucket, inCell, rfl⟩ := BucketTable.mem_groupByChild_iff.mp isGroup
    exact wellFormed.clientsInside_pos_iff.mpr ⟨id, cell, key, bucket, present, inCell,
      bucket.location.fallsInto_childAt (Nat.lt_of_lt_of_le room bounded)⟩
  · exact populated other (mem_cells_iff.mpr ⟨found, earlier⟩)

end Split

/-! ## Splits one after the other -/

/-- What is known of a forest and of the number of splits so far remains known when a cell that
the cascade may come to is split, and the cascade may come to its children then. -/
structure Cascading (splitThreshold maxLevel : Nat) (Known : Forest → Nat → Prop)
    (Reached : CellId → Prop) : Prop where
  split : ∀ {forest : Forest} {count : Nat} {id : CellId} {cell : Cell}, Known forest count →
    Reached id → forest.cells[id]? = some cell → cell.isLeaf = true →
      splitThreshold < cell.clientCount → id.level < maxLevel →
        Known (forest.split id cell) (count + 1) ∧
          ∀ child ∈ cell.tally.buckets.groupByChild id, Reached child

/-- What is known in the course of a cascade. -/
structure Ongoing (Known : Forest → Nat → Prop) (Reached : CellId → Prop)
    (refining : Refining) : Prop where
  known : Known refining.forest refining.splits
  reached : ∀ id ∈ refining.waiting, Reached id

theorem Ongoing.taken {Known : Forest → Nat → Prop} {Reached : CellId → Prop}
    (ongoing : Ongoing Known Reached refining) :
    Ongoing Known Reached { refining with waiting := [] } :=
  ⟨ongoing.known, fun _ none => absurd none List.not_mem_nil⟩

namespace Cascading

variable {Known : Forest → Nat → Prop} {Reached : CellId → Prop}
  (cascading : Cascading splitThreshold maxLevel Known Reached)

include cascading

theorem splitCell (ongoing : Ongoing Known Reached refining) (reached : Reached id) :
    Ongoing Known Reached (splitCell splitThreshold maxLevel refining id) := by
  by_cases overfull : refining.forest.Overfull splitThreshold maxLevel id
  · obtain ⟨cell, present, isLeaf, full, room⟩ := overfull
    obtain ⟨known, children⟩ := cascading.split ongoing.known reached present isLeaf full room
    rw [splitCell_of_overfull present isLeaf full room]
    refine ⟨known, fun other waits => ?_⟩
    rcases List.mem_append.mp waits with earlier | new
    · exact ongoing.reached other earlier
    · obtain ⟨table, group, _⟩ := mem_fullGroups_iff.mp new
      exact children other (BucketTable.mem_groupByChild_of_mem_toList group)
  · rwa [splitCell_of_not_overfull overfull]

theorem foldl_splitCell {ids : List CellId} (ongoing : Ongoing Known Reached refining)
    (reached : ∀ id ∈ ids, Reached id) :
    Ongoing Known Reached (ids.foldl (Forest.splitCell splitThreshold maxLevel) refining) := by
  induction ids generalizing refining with
  | nil => exact ongoing
  | cons id ids induction =>
      obtain ⟨here, later⟩ := List.forall_mem_cons.mp reached
      exact induction (cascading.splitCell ongoing here) later

/-- One level is worked off. -/
theorem nextLevel (ongoing : Ongoing Known Reached refining) :
    Ongoing Known Reached (refining.waiting.foldl (Forest.splitCell splitThreshold maxLevel)
      { refining with waiting := [] }) :=
  cascading.foldl_splitCell ongoing.taken ongoing.reached

theorem splitLevels (levels : Nat) (ongoing : Ongoing Known Reached refining) :
    Ongoing Known Reached (splitLevels splitThreshold maxLevel levels refining) := by
  induction levels generalizing refining with
  | zero => exact ongoing
  | succ levels induction => exact induction (cascading.nextLevel ongoing)

theorem splitCascade (known : Known forest 0) (reached : Reached id) :
    Known (forest.splitCascade id splitThreshold maxLevel).1
      (forest.splitCascade id splitThreshold maxLevel).2 :=
  (cascading.splitLevels (maxLevel - id.level) 
    ⟨known, List.forall_mem_singleton.mpr reached⟩).known

end Cascading

/-- One forest came out of another one by a number of splits, each of a leaf that was too full
and above the deepest level. -/
inductive Divided (splitThreshold maxLevel : Nat) (before : Forest) : Forest → Nat → Prop
  | start : Divided splitThreshold maxLevel before before 0
  | split {forest : Forest} {count : Nat} {id : CellId} {cell : Cell}
      (earlier : Divided splitThreshold maxLevel before forest count)
      (present : forest.cells[id]? = some cell) (isLeaf : cell.isLeaf = true)
      (full : splitThreshold < cell.clientCount) (room : id.level < maxLevel) :
      Divided splitThreshold maxLevel before (forest.split id cell) (count + 1)

namespace Divided

theorem trans {more : Nat} (earlier : Divided splitThreshold maxLevel before forest count)
    (later : Divided splitThreshold maxLevel forest after more) :
    Divided splitThreshold maxLevel before after (count + more) := by
  induction later with
  | start => exact earlier
  | split _ present isLeaf full room induction => exact .split induction present isLeaf full room

section

variable (divided : Divided splitThreshold maxLevel before after count)
  (wellFormed : before.WellFormed topLevel maxLevel) (bounded : maxLevel ≤ CellId.finestLevel)

include divided wellFormed bounded

theorem kept : Kept topLevel maxLevel before after := by
  induction divided with
  | start => exact .refl wellFormed
  | split _ present isLeaf full room induction =>
      exact induction.trans (induction.wellFormed.kept_split present isLeaf full room bounded)

theorem length_branches : after.branches.length = before.branches.length + count := by
  induction divided with
  | start => rfl
  | split earlier present isLeaf full room induction =>
      have known := (earlier.kept wellFormed bounded).wellFormed
      rw [known.length_branches_split present isLeaf full room bounded, induction, Nat.add_assoc]

theorem isSplit_of_isSplit (split : before.isSplit id = true) : after.isSplit id = true := by
  induction divided with
  | start => exact split
  | split earlier present isLeaf full room induction =>
      have known := (earlier.kept wellFormed bounded).wellFormed
      exact (known.isSplit_split_iff present isLeaf full room bounded).mpr (.inr induction)

/-- What was split in between holds too many clients. -/
theorem lt_clientsInside (split : after.isSplit id = true) (new : before.isSplit id = false) :
    splitThreshold < before.clientsInside id := by
  induction divided with
  | start => simp [split] at new
  | split earlier present isLeaf full room induction =>
      have kept := earlier.kept wellFormed bounded
      rcases (kept.wellFormed.isSplit_split_iff present isLeaf full room bounded).mp split with
        rfl | before
      · rwa [← kept.clientsInside, kept.wellFormed.clientsInside_leaf present isLeaf]
      · exact induction before

theorem clientsInside_pos (populated : ∀ id ∈ before.cells, 0 < before.clientsInside id) :
    ∀ id ∈ after.cells, 0 < after.clientsInside id := by
  induction divided with
  | start => exact populated
  | split earlier present isLeaf full room induction =>
      have known := (earlier.kept wellFormed bounded).wellFormed
      exact fun _ => known.clientsInside_pos_of_split present isLeaf full room bounded induction

end

end Divided

theorem cascading_divided (splitThreshold maxLevel : Nat) (before : Forest) :
    Cascading splitThreshold maxLevel (Divided splitThreshold maxLevel before) fun _ => True where
  split earlier _ present isLeaf full room :=
    ⟨.split earlier present isLeaf full room, fun _ _ => trivial⟩

/-- A cascade makes as many splits as it tells. -/
theorem divided_splitCascade (forest : Forest) (id : CellId) (splitThreshold maxLevel : Nat) :
    Divided splitThreshold maxLevel forest (forest.splitCascade id splitThreshold maxLevel).1
      (forest.splitCascade id splitThreshold maxLevel).2 :=
  (cascading_divided splitThreshold maxLevel forest).splitCascade .start trivial

theorem WellFormed.splitCascade (wellFormed : forest.WellFormed topLevel maxLevel)
    (bounded : maxLevel ≤ CellId.finestLevel) (id : CellId) (splitThreshold : Nat) :
    Kept topLevel maxLevel forest (forest.splitCascade id splitThreshold maxLevel).1 :=
  (divided_splitCascade forest id splitThreshold maxLevel).kept wellFormed bounded

/-! ## Nothing too full is left -/

theorem mem_waiting_splitCell (bounded : maxLevel ≤ CellId.finestLevel)
    (waits : other ∈ (splitCell splitThreshold maxLevel refining id).waiting) :
    other ∈ refining.waiting ∨ other.level = id.level + 1 := by
  by_cases overfull : refining.forest.Overfull splitThreshold maxLevel id
  · obtain ⟨cell, present, isLeaf, full, room⟩ := overfull
    rw [splitCell_of_overfull present isLeaf full room, List.mem_append,
      mem_fullGroups_iff] at waits
    refine waits.imp_right fun ⟨table, group, _⟩ => ?_
    exact BucketTable.level_of_group (Nat.lt_of_lt_of_le room bounded)
      (BucketTable.mem_groupByChild_of_mem_toList group)
  · rw [splitCell_of_not_overfull overfull] at waits
    exact .inl waits

theorem mem_waiting_foldl_splitCell (bounded : maxLevel ≤ CellId.finestLevel) {ids : List CellId}
    {levels : Nat} (reach : ∀ id ∈ ids, maxLevel ≤ id.level + (levels + 1))
    (waits : other ∈ (ids.foldl (splitCell splitThreshold maxLevel) refining).waiting) :
    other ∈ refining.waiting ∨ maxLevel ≤ other.level + levels := by
  induction ids generalizing refining with
  | nil => exact .inl waits
  | cons id ids induction =>
      obtain ⟨here, later⟩ := List.forall_mem_cons.mp reach
      rcases induction later waits with earlier | deep
      · rcases mem_waiting_splitCell bounded earlier with before | level
        · exact .inl before
        · exact .inr (by omega)
      · exact .inr deep

/-- With one level less left, what waits for the next level can still be worked off. -/
theorem reach_nextLevel (bounded : maxLevel ≤ CellId.finestLevel) {levels : Nat}
    (reach : ∀ id ∈ refining.waiting, maxLevel ≤ id.level + (levels + 1)) :
    ∀ id ∈ (refining.waiting.foldl (splitCell splitThreshold maxLevel)
      { refining with waiting := [] }).waiting, maxLevel ≤ id.level + levels :=
  fun _ waits => (mem_waiting_foldl_splitCell bounded reach waits).resolve_left List.not_mem_nil

/-- Every leaf that is too full is about to be split or waits for the next level, apart from
those that the cascade leaves alone. -/
def Attended (splitThreshold maxLevel : Nat) (spared : CellId → Prop) (pending : List CellId)
    (refining : Refining) : Prop :=
  ∀ id, refining.forest.Overfull splitThreshold maxLevel id →
    spared id ∨ id ∈ pending ∨ id ∈ refining.waiting

variable {spared : CellId → Prop}

theorem Attended.splitCell {pending : List CellId}
    (attended : Attended splitThreshold maxLevel spared (id :: pending) refining) :
    Attended splitThreshold maxLevel spared pending
      (splitCell splitThreshold maxLevel refining id) := by
  intro other overfullLater
  by_cases overfull : refining.forest.Overfull splitThreshold maxLevel id
  · obtain ⟨cell, present, isLeaf, full, room⟩ := overfull
    rw [splitCell_of_overfull present isLeaf full room] at overfullLater ⊢
    obtain ⟨found, later, foundLeaf, foundFull, foundRoom⟩ := overfullLater
    rw [List.mem_append]
    -- The leaf is the cell that was split, one of its new children or an old leaf.
    rcases origin_split later with ⟨same, rfl⟩ | ⟨table, held, rfl⟩ | ⟨different, earlier⟩
    · simp [Cell.clientCount] at foundFull
    · exact .inr (.inr (.inr (mem_fullGroups_iff.mpr
        ⟨table, Std.ExtTreeMap.mem_toList_iff_getElem?_eq_some.mpr held, foundFull, foundRoom⟩)))
    · have either := attended other ⟨found, earlier, foundLeaf, foundFull, foundRoom⟩
      rw [List.mem_cons, or_iff_right different] at either
      exact either.imp_right (Or.imp_right .inl)
  · rw [splitCell_of_not_overfull overfull] at overfullLater ⊢
    have different : other ≠ id := fun same => overfull (same ▸ overfullLater)
    have either := attended other overfullLater
    rwa [List.mem_cons, or_iff_right different] at either

theorem Attended.foldl_splitCell {ids : List CellId}
    (attended : Attended splitThreshold maxLevel spared ids refining) :
    Attended splitThreshold maxLevel spared []
      (ids.foldl (Forest.splitCell splitThreshold maxLevel) refining) := by
  induction ids generalizing refining with
  | nil => exact attended
  | cons id ids induction => exact induction attended.splitCell

/-- With as many levels left as the waiting cells may go down, nothing is forgotten. -/
theorem Attended.spared_of_splitLevels
    (attended : Attended splitThreshold maxLevel spared [] refining)
    (bounded : maxLevel ≤ CellId.finestLevel) {levels : Nat}
    (reach : ∀ id ∈ refining.waiting, maxLevel ≤ id.level + levels)
    (overfull : (splitLevels splitThreshold maxLevel levels refining).forest.Overfull
      splitThreshold maxLevel id) : spared id := by
  induction levels generalizing refining with
  | zero =>
      -- No level is left, so whatever waits is too deep to be split.
      refine (attended id overfull).resolve_right fun waits => ?_
      have waits := waits.resolve_left List.not_mem_nil
      obtain ⟨_, _, _, _, room⟩ := overfull
      exact absurd (reach id waits) (Nat.not_le_of_lt room)
  | succ levels induction =>
      have pending : Attended splitThreshold maxLevel spared refining.waiting
          { refining with waiting := [] } :=
        fun id overfull => (attended id overfull).imp_right fun waits =>
          .inl (waits.resolve_left List.not_mem_nil)
      exact induction pending.foldl_splitCell (reach_nextLevel bounded reach) overfull

/-- A cascade makes no leaf too full and relieves the one from which it starts. -/
theorem overfull_of_splitCascade (bounded : maxLevel ≤ CellId.finestLevel)
    (overfull : (forest.splitCascade id splitThreshold maxLevel).1.Overfull splitThreshold maxLevel
      other) : forest.Overfull splitThreshold maxLevel other ∧ other ≠ id := by
  have attended : Attended splitThreshold maxLevel
      (fun other => forest.Overfull splitThreshold maxLevel other ∧ other ≠ id) []
      ⟨forest, [id], 0⟩ := by
    intro other overfull
    by_cases same : other = id
    · exact .inr (.inr (List.mem_singleton.mpr same))
    · exact .inl ⟨overfull, same⟩
  refine attended.spared_of_splitLevels bounded ?_ overfull
  simp only [List.mem_singleton, forall_eq]
  omega

/-- A cascade from the only leaf that is too full leaves none that is. -/
theorem calm_splitCascade (bounded : maxLevel ≤ CellId.finestLevel)
    (only : ∀ other, forest.Overfull splitThreshold maxLevel other → other = id) :
    (forest.splitCascade id splitThreshold maxLevel).1.Calm splitThreshold maxLevel := by
  intro other overfull
  obtain ⟨before, different⟩ := overfull_of_splitCascade bounded overfull
  exact different (only other before)

/-- A cascade splits the leaf from which it starts, if that is too full. -/
theorem WellFormed.isSplit_splitCascade (wellFormed : forest.WellFormed topLevel maxLevel)
    (bounded : maxLevel ≤ CellId.finestLevel)
    (overfull : forest.Overfull splitThreshold maxLevel id) :
    (forest.splitCascade id splitThreshold maxLevel).1.isSplit id = true := by
  obtain ⟨cell, present, isLeaf, full, room⟩ := overfull
  obtain ⟨levels, levelsLeft⟩ : ∃ levels, maxLevel - id.level = levels + 1 :=
    ⟨maxLevel - id.level - 1, by omega⟩
  have isSplit : (forest.split id cell).isSplit id = true :=
    (wellFormed.isSplit_split_iff present isLeaf full room bounded).mpr (.inl rfl)
  have cascading : Cascading splitThreshold maxLevel
      (fun after _ => after.WellFormed topLevel maxLevel ∧ after.isSplit id = true)
      fun _ => True := by
    refine ⟨fun ⟨known, still⟩ _ present isLeaf full room => ⟨⟨?_, ?_⟩, fun _ _ => trivial⟩⟩
    · exact (known.kept_split present isLeaf full room bounded).wellFormed
    · exact (known.isSplit_split_iff present isLeaf full room bounded).mpr (.inr still)
  rw [Forest.splitCascade, levelsLeft, splitLevels, List.foldl_cons, List.foldl_nil,
    splitCell_of_overfull present isLeaf full room]
  exact (cascading.splitLevels levels
    ⟨⟨(wellFormed.kept_split present isLeaf full room bounded).wellFormed, isSplit⟩,
      fun _ _ => trivial⟩).known.2

end Forest

end LoadAtlas
