import LoadAtlas.Forest.Audit
import LoadAtlas.Forest.Register
import LoadAtlas.Proofs.Bucket.Grouping
import LoadAtlas.Proofs.Bucket.Journal
import LoadAtlas.Proofs.Bucket.Key
import LoadAtlas.Proofs.Forest.Split
import LoadAtlas.Proofs.Forest.Strict
import Mathlib.Data.List.TakeWhile

/-!
# Sweeps in registers

A sweep in registers is the plain one as long as the sums that it forms fit, and it stops at the
first one that does not.  Which sums these are can be told from the forest before the sweep: at
each split cell the clients below its children are added up, from the first child to the first
one that stays split.
-/

namespace LoadAtlas

namespace Forest

variable {topLevel maxLevel mergeThreshold : Nat} {forest before : Forest} {id : CellId}
  {cell : Cell} {leaves : List (CellId × Cell)} {children done : List CellId}
  {sweeping : Sweeping}

theorem sum_takeWhile_congr {Item : Type} {items : List Item} {first second : Item → Bool}
    {firstCount secondCount : Item → Nat}
    (same : ∀ item ∈ items, first item = second item ∧
      (first item = true → firstCount item = secondCount item)) :
    ((items.takeWhile first).map firstCount).sum =
      ((items.takeWhile second).map secondCount).sum := by
  induction items with
  | nil => rfl
  | cons item items induction =>
      obtain ⟨⟨sameTest, sameCount⟩, later⟩ := List.forall_mem_cons.mp same
      cases test : first item with
      | false => simp [test, ← sameTest]
      | true =>
          rw [List.takeWhile_cons_of_pos test, List.takeWhile_cons_of_pos (sameTest ▸ test),
            List.map_cons, List.map_cons, List.sum_cons, List.sum_cons, sameCount test,
            induction later]

/-- The clients of some children, up to the first one that is split. -/
def frontSum (forest : Forest) (children : List CellId) : Nat :=
  ((children.takeWhile fun child => !forest.isSplit child).map forest.countAt).sum

theorem countAt_of_present (present : forest.cells[id]? = some cell) :
    forest.countAt id = cell.clientCount := by
  rw [countAt, present]

theorem frontSum_cons_leaf {child : CellId} (present : forest.cells[child]? = some cell)
    (isLeaf : cell.isLeaf = true) (children : List CellId) :
    forest.frontSum (child :: children) = cell.clientCount + forest.frontSum children := by
  have whole : forest.isSplit child = false := by simp [isSplit, present, isLeaf]
  simp [frontSum, whole, countAt_of_present present]

theorem frontSum_cons_split {child : CellId} (split : forest.isSplit child = true)
    (children : List CellId) : forest.frontSum (child :: children) = 0 := by
  simp [frontSum, split]

/-- Where all children are leaves, all of them are added up. -/
theorem frontSum_of_leaves (areLeaves : Leaves forest cell leaves) :
    forest.frontSum cell.children = (leaves.map fun leaf => leaf.2.clientCount).sum := by
  obtain ⟨names, present, isLeaf⟩ := areLeaves
  rw [← names]
  clear names
  induction leaves with
  | nil => rfl
  | cons leaf leaves induction =>
      obtain ⟨here, later⟩ := List.forall_mem_cons.mp present
      obtain ⟨leafHere, leafLater⟩ := List.forall_mem_cons.mp isLeaf
      rw [List.map_cons, frontSum_cons_leaf here leafHere, induction later leafLater,
        List.map_cons, List.sum_cons]

namespace Registers

open Strict

/-! ## One merge -/

theorem addUp_eq (there : ∀ child ∈ children, child ∈ forest.cells) {total : Nat}
    (bounded : total ≤ Tally.registerLimit) : addUp forest id total children =
      if Tally.registerLimit < total + forest.frontSum children then .error (.overflow id)
      else .ok ((children.mapM forest.leafNamed?).map fun leaves =>
        total + (leaves.map fun leaf => leaf.2.clientCount).sum) := by
  induction children generalizing total with
  | nil => exact (if_neg (Nat.not_lt.mpr bounded)).symm
  | cons child children induction =>
      obtain ⟨here, later⟩ := List.forall_mem_cons.mp there
      obtain ⟨cell, present⟩ := mem_cells_iff.mp here
      rw [addUp, expect_of_present present, ok_bind, List.mapM_cons]
      by_cases isLeaf : cell.isLeaf = true
      · have named : forest.leafNamed? child = some (child, cell) :=
          leafNamed?_eq_some_iff.mpr ⟨rfl, present, isLeaf⟩
        rw [if_pos isLeaf, frontSum_cons_leaf present isLeaf, named, add]
        by_cases fits : total + cell.clientCount ≤ Tally.registerLimit
        · rw [if_neg (Nat.not_lt.mpr fits), ok_bind, induction later fits, Nat.add_assoc]
          cases children.mapM forest.leafNamed? with
          | none => rfl
          | some leaves => simp [Nat.add_assoc]
        · have beyond : Tally.registerLimit < total + cell.clientCount := by omega
          rw [if_pos beyond, if_pos (by omega), error_bind]
      · have split : forest.isSplit child = true :=
          isSplit_iff.mpr ⟨cell, present, by simpa using isLeaf⟩
        have unnamed : forest.leafNamed? child = none := by
          simp [leafNamed?, present, isLeaf]
        rw [if_neg isLeaf, frontSum_cons_split split, unnamed, Nat.add_zero,
          if_neg (Nat.not_lt.mpr bounded)]
        rfl

/-- Buckets are gathered as a tally counts them, as long as its total fits. -/
theorem foldlM_gatherBucket {tally : Tally} (balanced : tally.Balanced)
    {entries : List (String × Bucket)}
    (fits : tally.total + (entries.map fun entry => entry.2.count).sum ≤ Tally.registerLimit) :
    entries.foldlM (gatherBucket id) tally.buckets = .ok (tally.addEach entries).buckets := by
  induction entries generalizing tally with
  | nil => rfl
  | cons entry entries induction =>
      rw [List.map_cons, List.sum_cons] at fits
      have covered : tally.buckets.countOf entry.1 ≤ tally.total :=
        balanced ▸ tally.buckets.countOf_le_sum entry.1
      have room : ¬ Tally.registerLimit < tally.buckets.countOf entry.1 + entry.2.count := by
        omega
      rw [List.foldlM_cons, gatherBucket, add, if_neg room, ok_bind]
      refine induction (balanced.add entry.1 entry.2.location entry.2.count) ?_
      rw [Tally.total_add]
      omega

theorem foldlM_gatherChild {tally : Tally} (balanced : tally.Balanced)
    (distinct : (leaves.map Prod.fst).Nodup)
    (present : ∀ leaf ∈ leaves, forest.cells[leaf.1]? = some leaf.2)
    (leavesBalanced : ∀ leaf ∈ leaves, leaf.2.tally.Balanced)
    (fits : tally.total + (leaves.map fun leaf => leaf.2.clientCount).sum ≤ Tally.registerLimit) :
    (leaves.map Prod.fst).foldlM (gatherChild id) (forest, tally.buckets) =
      .ok (forest.clear leaves, (gather tally leaves).buckets) := by
  induction leaves generalizing forest tally with
  | nil => rfl
  | cons leaf leaves induction =>
      obtain ⟨here, later⟩ := List.forall_mem_cons.mp leavesBalanced
      rw [List.map_cons, List.nodup_cons] at distinct
      rw [List.map_cons, List.sum_cons, Cell.clientCount, here] at fits
      have stillPresent : ∀ other ∈ leaves,
          (forest.removeLeaf leaf.1).cells[other.1]? = some other.2 := by
        intro other member
        have different : leaf.1 ≠ other.1 := fun same =>
          distinct.1 (same ▸ List.mem_map_of_mem member)
        rw [cells_removeLeaf, Std.ExtTreeMap.getElem?_erase, if_neg (by simpa using different)]
        exact present other (List.mem_cons_of_mem _ member)
      have gathered : leaf.2.tally.buckets.toList.foldlM (gatherBucket id) tally.buckets =
          .ok (tally.absorb leaf.2.tally.buckets).buckets :=
        foldlM_gatherBucket balanced (by rw [BucketTable.sum] at fits; omega)
      rw [List.map_cons, List.foldlM_cons, gatherChild,
        expect_of_present (present leaf List.mem_cons_self), ok_bind, gathered, ok_bind]
      refine induction (balanced.absorb leaf.2.tally.buckets) distinct.2 stillPresent later ?_
      rw [Tally.total_absorb]
      omega

/-- What was gathered is counted at once. -/
theorem registerAll_buckets {tally : Tally} (balanced : tally.Balanced)
    (fits : tally.total ≤ Tally.registerLimit) :
    Tally.empty.registerAll tally.buckets = .ok tally := by
  have counted : Tally.empty.absorb tally.buckets = tally := by
    rw [← Tally.ofTable, Tally.ofTable_eq]
    cases tally
    exact congrArg (Tally.mk · _) balanced.symm
  refine (Tally.registered_empty.registerEach_entries_eq_ok_iff (.ofTable tally.buckets)).mpr
    ⟨?_, counted⟩
  change 0 + tally.buckets.sum ≤ _
  rwa [Nat.zero_add, ← balanced]

section

variable (wellFormed : forest.WellFormed topLevel maxLevel)
  (present : forest.cells[id]? = some cell) (split : cell.isLeaf = false)

include wellFormed present split

/-- Leaves with few clients are merged in registers as they are without. -/
theorem merge_of_leaves (areLeaves : Leaves forest cell leaves)
    (fits : (leaves.map fun leaf => leaf.2.clientCount).sum ≤ Tally.registerLimit)
    (few : (leaves.map fun leaf => leaf.2.clientCount).sum < mergeThreshold) :
    merge mergeThreshold forest id = .ok (some (forest.collapse id cell leaves)) := by
  have there : ∀ child ∈ cell.children, child ∈ forest.cells := fun child listed =>
    (wellFormed.child present listed).1
  have named : cell.children.mapM forest.leafNamed? = some leaves :=
    leafChildren?_eq_some_iff.mpr areLeaves
  have sound : ∀ leaf ∈ leaves, leaf.2.tally.Sound := fun leaf member =>
    (wellFormed.sound (areLeaves.present leaf member)).tally
  have nothing : cell.tally = Tally.empty := (wellFormed.sound present).split split
  have added : addUp forest id 0 cell.children =
      .ok (some (leaves.map fun leaf => leaf.2.clientCount).sum) := by
    rw [addUp_eq there (Nat.zero_le _), frontSum_of_leaves areLeaves, Nat.zero_add,
      if_neg (Nat.not_lt.mpr fits), named, Option.map_some, Nat.zero_add]
  have gathered : cell.children.foldlM (gatherChild id) (forest, ∅) =
      .ok (forest.clear leaves, (gather Tally.empty leaves).buckets) := by
    rw [← areLeaves.names]
    exact foldlM_gatherChild Tally.sound_empty.balanced
      (wellFormed.nodup_leaves present areLeaves) areLeaves.present
      (fun leaf member => (sound leaf member).balanced) (by rwa [Tally.empty, Nat.zero_add])
  have stillPresent : (forest.clear leaves).cells[id]? = some cell := by
    rw [getElem?_clear_of_not_mem (wellFormed.not_mem_leaves present areLeaves), present]
  have counted : Tally.empty.registerAll (gather Tally.empty leaves).buckets =
      .ok (gather Tally.empty leaves) := by
    refine registerAll_buckets (sound_gather Tally.sound_empty sound).balanced ?_
    rwa [total_gather Tally.sound_empty sound, Tally.empty, Nat.zero_add]
  rw [merge, expect_of_present present, ok_bind, added, ok_bind]
  simp only [if_neg (Nat.not_le.mpr few), gathered, ok_bind, expect_of_present stillPresent,
    nothing, counted]
  rw [collapse, nothing]
  rfl

/-- A merge in registers stops where the sum does not fit, and else it is the plain one. -/
theorem merge_eq : merge mergeThreshold forest id =
    if Tally.registerLimit < forest.frontSum cell.children then .error (.overflow id)
    else .ok (forest.merge? id mergeThreshold) := by
  have there : ∀ child ∈ cell.children, child ∈ forest.cells := fun child listed =>
    (wellFormed.child present listed).1
  have added : addUp forest id 0 cell.children = _ :=
    addUp_eq there (Nat.zero_le Tally.registerLimit)
  rw [Nat.zero_add] at added
  by_cases fits : forest.frontSum cell.children ≤ Tally.registerLimit
  · rw [if_neg (Nat.not_lt.mpr fits)] at added ⊢
    cases found : forest.leafChildren? cell with
    | none =>
        rw [leafChildren?] at found
        rw [merge, expect_of_present present, ok_bind, added, found, ok_bind]
        simp [merge?, present, leafChildren?, found, pure, Except.pure]
    | some leaves =>
        have areLeaves := leafChildren?_eq_some_iff.mp found
        by_cases few : (leaves.map fun leaf => leaf.2.clientCount).sum < mergeThreshold
        · rw [frontSum_of_leaves areLeaves] at fits
          rw [merge_of_leaves wellFormed present split areLeaves fits few]
          exact congrArg _
            (merge?_eq_some_iff.mpr ⟨cell, leaves, present, areLeaves, few, rfl⟩).symm
        · have named := found
          rw [leafChildren?] at named
          rw [merge, expect_of_present present, ok_bind, added, named, ok_bind]
          simp [merge?, present, found, Nat.not_lt.mp few, pure, Except.pure]
  · rw [if_pos (Nat.not_le.mp fits)] at added ⊢
    rw [merge, expect_of_present present, ok_bind, added, error_bind]

end

/-! ## Whole sweeps -/

end Registers

/-- What a sweep adds up at a cell: the clients below its children, up to the first child that
stays split. -/
def sumAt (mergeThreshold : Nat) (forest : Forest) (id : CellId) : Nat :=
  (((forest.childrenOf id).takeWhile fun child => !forest.staysSplit mergeThreshold child).map
    forest.clientsBelow).sum

/-- Every sum that a sweep forms fits into a register. -/
def FitsRegisters (mergeThreshold : Nat) (forest : Forest) : Prop :=
  ∀ id, forest.isSplit id = true → forest.sumAt mergeThreshold id ≤ Tally.registerLimit

/-- Above leaves a sweep adds up all clients below the cell. -/
theorem WellFormed.sumAt_of_leaves (wellFormed : forest.WellFormed topLevel maxLevel)
    (present : forest.cells[id]? = some cell) (split : cell.isLeaf = false)
    (areLeaves : Leaves forest cell leaves) :
    forest.sumAt mergeThreshold id = forest.clientsBelow id := by
  have children : forest.childrenOf id = leaves.map Prod.fst := by
    simp [childrenOf, present, areLeaves.names]
  have whole : ∀ child ∈ leaves.map Prod.fst, (!forest.staysSplit mergeThreshold child) = true := by
    intro child listed
    obtain ⟨leaf, member, rfl⟩ := List.mem_map.mp listed
    simp [staysSplit, isSplit, areLeaves.present leaf member, areLeaves.isLeaf leaf member]
  rw [sumAt, children, List.takeWhile_eq_self_iff.mpr whole, List.map_map,
    ← wellFormed.sum_leaves present areLeaves split]
  refine congrArg List.sum (List.map_congr_left fun leaf member => ?_)
  exact wellFormed.clientsBelow_leaf (areLeaves.present leaf member) (areLeaves.isLeaf leaf member)

/-- Two forests agree on the children of a cell: those that are split in the one are those that
stay split in the other, with as many clients below them. -/
structure Agree (mergeThreshold : Nat) (before forest : Forest) (id : CellId) : Prop where
  children : forest.childrenOf id = before.childrenOf id
  isSplit : ∀ child ∈ forest.childrenOf id,
    forest.isSplit child = before.staysSplit mergeThreshold child
  clients : ∀ child ∈ forest.childrenOf id, forest.clientsBelow child = before.clientsBelow child

namespace Agree

variable (agree : Agree mergeThreshold before forest id)

include agree

theorem frontSum_eq (wellFormed : forest.WellFormed topLevel maxLevel)
    (present : forest.cells[id]? = some cell) :
    forest.frontSum cell.children = before.sumAt mergeThreshold id := by
  have children : forest.childrenOf id = cell.children := by simp [childrenOf, present]
  rw [frontSum, sumAt, ← agree.children, children]
  refine sum_takeWhile_congr fun child listed => ?_
  have named : child ∈ forest.childrenOf id := children ▸ listed
  refine ⟨congrArg not (agree.isSplit child named), fun whole => ?_⟩
  obtain ⟨found, there⟩ := mem_cells_iff.mp (wellFormed.child present listed).1
  have isLeaf : found.isLeaf = true := by simpa [Forest.isSplit, there] using whole
  rw [countAt_of_present there, ← wellFormed.clientsBelow_leaf there isLeaf,
    agree.clients child named]

theorem sumAt_eq (many : ∀ child ∈ forest.childrenOf id, forest.isSplit child = true →
    mergeThreshold ≤ forest.clientsBelow child) :
    forest.sumAt mergeThreshold id = before.sumAt mergeThreshold id := by
  rw [sumAt, sumAt, ← agree.children]
  refine sum_takeWhile_congr fun child listed => ⟨congrArg not ?_, fun _ => agree.clients child listed⟩
  rw [← agree.isSplit child listed, Bool.eq_iff_iff, staysSplit_iff]
  exact and_iff_left_of_imp (many child listed)

end Agree

theorem Underway.agree (wellFormed : before.WellFormed topLevel maxLevel)
    (underway : Underway topLevel maxLevel mergeThreshold before done sweeping)
    (due : Due before done id) : Agree mergeThreshold before sweeping.forest id := by
  obtain ⟨member, same⟩ := underway.present_of_due wellFormed due
  obtain ⟨cell, present⟩ := mem_cells_iff.mp member
  have children : sweeping.forest.childrenOf id = cell.children := by simp [childrenOf, present]
  refine ⟨by rw [childrenOf, childrenOf, same], fun child listed => ?_, fun child listed => ?_⟩
  · exact underway.isSplit_child due present (children ▸ listed)
  · exact underway.clients child (underway.wellFormed.child present (children ▸ listed)).1

namespace WellFormed

variable (wellFormed : forest.WellFormed topLevel maxLevel)

include wellFormed

theorem agree_mergeSweep (split : (forest.mergeSweep mergeThreshold).1.isSplit id = true) :
    Agree mergeThreshold forest (forest.mergeSweep mergeThreshold).1 id := by
  have swept := wellFormed.swept_mergeSweep mergeThreshold
  have remains := wellFormed.wellFormed_mergeSweep mergeThreshold
  obtain ⟨cell, present, _⟩ := Forest.isSplit_iff.mp split
  have member := mem_cells_iff.mpr ⟨cell, present⟩
  obtain ⟨_, many⟩ := (swept.isSplit_iff id member).mp split
  have same := (swept.unchanged id member fun merged => Nat.not_lt.mpr many merged.2).1
  have there : ∀ child ∈ (forest.mergeSweep mergeThreshold).1.childrenOf id,
      child ∈ (forest.mergeSweep mergeThreshold).1.cells := by
    intro child listed
    obtain ⟨found, foundPresent, listed⟩ := mem_childrenOf_iff.mp listed
    exact (remains.child foundPresent listed).1
  refine ⟨by rw [childrenOf, childrenOf, same], fun child listed => ?_, fun child listed => ?_⟩
  · rw [Bool.eq_iff_iff, staysSplit_iff]
    exact swept.isSplit_iff child (there child listed)
  · exact wellFormed.clientsBelow_mergeSweep (there child listed)

/-- A sweep forms no sums but those that it formed before. -/
theorem fitsRegisters_mergeSweep (fits : forest.FitsRegisters mergeThreshold) :
    (forest.mergeSweep mergeThreshold).1.FitsRegisters mergeThreshold := by
  have swept := wellFormed.swept_mergeSweep mergeThreshold
  have remains := wellFormed.wellFormed_mergeSweep mergeThreshold
  intro id split
  obtain ⟨cell, present, _⟩ := Forest.isSplit_iff.mp split
  have splitBefore := ((swept.isSplit_iff id (mem_cells_iff.mpr ⟨cell, present⟩)).mp split).1
  rw [(wellFormed.agree_mergeSweep split).sumAt_eq fun child listed childSplit => ?_]
  · exact fits id splitBefore
  · obtain ⟨found, foundPresent, listed⟩ := mem_childrenOf_iff.mp listed
    have member := (remains.child foundPresent listed).1
    rw [wellFormed.clientsBelow_mergeSweep member]
    exact ((swept.isSplit_iff child member).mp childSplit).2

end WellFormed

namespace Registers

open Strict

theorem merging_merge (wellFormed : before.WellFormed topLevel maxLevel) :
    Merging topLevel maxLevel mergeThreshold before
      (fun id => before.sumAt mergeThreshold id ≤ Tally.registerLimit) (merge mergeThreshold) := by
  constructor
  all_goals
    intro done sweeping id underway due fits
    obtain ⟨cell, present, split⟩ := isSplit_iff.mp due.split
    rw [← (underway.present_of_due wellFormed due).2] at present
    rw [merge_eq underway.wellFormed present split,
      (underway.agree wellFormed due).frontSum_eq underway.wellFormed present]
  · exact if_neg (Nat.not_lt.mpr fits)
  · exact if_pos (Nat.not_le.mp fits)

theorem mergeSweep_of_fits (wellFormed : forest.WellFormed topLevel maxLevel)
    (fits : forest.FitsRegisters mergeThreshold) :
    mergeSweep forest mergeThreshold = .ok (forest.mergeSweep mergeThreshold) := by
  rcases (merging_merge wellFormed).sweepBy_cases wellFormed with
    ⟨_, swept⟩ | ⟨id, split, beyond, _⟩
  · exact swept
  · exact absurd (fits id split) beyond

/-- After a sweep nothing can be merged. -/
theorem merge_mergeSweep (wellFormed : forest.WellFormed topLevel maxLevel)
    (fits : forest.FitsRegisters mergeThreshold)
    (split : (forest.mergeSweep mergeThreshold).1.isSplit id = true) :
    merge mergeThreshold (forest.mergeSweep mergeThreshold).1 id = .ok none := by
  have swept := wellFormed.swept_mergeSweep mergeThreshold
  have remains := wellFormed.wellFormed_mergeSweep mergeThreshold
  obtain ⟨cell, present, notLeaf⟩ := isSplit_iff.mp split
  have splitBefore := ((swept.isSplit_iff id (mem_cells_iff.mpr ⟨cell, present⟩)).mp split).1
  rw [merge_eq remains present notLeaf,
    (wellFormed.agree_mergeSweep split).frontSum_eq remains present,
    if_neg (Nat.not_lt.mpr (fits id splitBefore)), wellFormed.merge?_mergeSweep split]

theorem mergeSweep_mergeSweep (wellFormed : forest.WellFormed topLevel maxLevel)
    (fits : forest.FitsRegisters mergeThreshold) :
    mergeSweep (forest.mergeSweep mergeThreshold).1 mergeThreshold =
      .ok ((forest.mergeSweep mergeThreshold).1, []) := by
  rw [mergeSweep_of_fits (wellFormed.wellFormed_mergeSweep mergeThreshold)
    (wellFormed.fitsRegisters_mergeSweep fits), wellFormed.mergeSweep_mergeSweep]

/-! ## One split cell -/

section

variable {top : CellId} {merged : List CellId} {after : Forest} (parts : Parts top leaves)
  (isCell : top.IsCell) (room : top.level < CellId.finestLevel)

include parts isCell room

/-- A sweep merges the one cell that is split if it has few clients, and no other cell. -/
theorem merged_eq (swept : Swept mergeThreshold (splitInto top leaves) after merged) : merged =
    if (leaves.map fun leaf => leaf.2.clientCount).sum < mergeThreshold then [top] else [] := by
  have mem_iff (id : CellId) : id ∈ merged ↔
      id = top ∧ (leaves.map fun leaf => leaf.2.clientCount).sum < mergeThreshold := by
    rw [swept.mem_merged_iff, parts.isSplit_iff isCell room]
    refine and_congr_right ?_
    rintro rfl
    rw [parts.clientsBelow_top isCell room]
  split
  case isTrue few =>
    refine List.perm_singleton.mp ((List.perm_ext_iff_of_nodup swept.nodup_merged
      (List.nodup_singleton _)).mpr fun id => ?_)
    rw [mem_iff, List.mem_singleton]
    exact and_iff_left few
  case isFalse many =>
    exact List.eq_nil_iff_forall_not_mem.mpr fun id member => many ((mem_iff id).mp member).2

theorem top_remains (swept : Swept mergeThreshold (splitInto top leaves) after merged) :
    top ∈ after.cells := by
  have wellFormed := parts.wellFormed isCell room
  refine (swept.remains_iff top).mpr ⟨mem_cells_iff.mpr ⟨_, parts.getElem?_top isCell room⟩,
    fun outer member different around => ?_⟩
  -- There is no cell around the top cell.
  obtain ⟨cell, present⟩ := mem_cells_iff.mp member
  have coarser := CellId.level_lt_of_contains_of_ne (wellFormed.isCell present) isCell around
    different
  exact absurd (wellFormed.levels present).1 (Nat.not_le.mpr coarser)

theorem fitsRegisters_splitInto
    (fits : (leaves.map fun leaf => leaf.2.clientCount).sum ≤ Tally.registerLimit)
    (mergeThreshold : Nat) : (splitInto top leaves).FitsRegisters mergeThreshold := by
  intro id split
  obtain rfl := (parts.isSplit_iff isCell room).mp split
  rwa [(parts.wellFormed isCell room).sumAt_of_leaves (parts.getElem?_top isCell room)
    parts.top_not_leaf parts.areLeaves, parts.clientsBelow_top isCell room]

/-- With many clients the cell stays split. -/
theorem mergeSweep_splitInto
    (fits : (leaves.map fun leaf => leaf.2.clientCount).sum ≤ Tally.registerLimit)
    (many : mergeThreshold ≤ (leaves.map fun leaf => leaf.2.clientCount).sum) :
    mergeSweep (splitInto top leaves) mergeThreshold = .ok (splitInto top leaves, []) := by
  have wellFormed := parts.wellFormed isCell room
  have idle : ((splitInto top leaves).mergeSweep mergeThreshold).2 = [] := by
    rw [merged_eq parts isCell room (wellFormed.swept_mergeSweep mergeThreshold),
      if_neg (Nat.not_lt.mpr many)]
  have same := mergeSweep_fst_of_snd_eq_nil idle
  rw [mergeSweep_of_fits wellFormed (fitsRegisters_splitInto parts isCell room fits _)]
  exact congrArg Except.ok (Prod.ext same idle)

end

/-! ## What a sweep comes to -/

/-- What a sweep makes of a forest if its sums fit: the one forest that the numbers of clients
below its cells ask for, in which nothing is left to merge. -/
structure Settled (topLevel maxLevel mergeThreshold : Nat) (before after : Forest)
    (merged : List CellId) : Prop where
  wellFormed : after.WellFormed topLevel maxLevel
  swept : Swept mergeThreshold before after merged
  unique : ∀ (other : Forest) (otherMerged : List CellId), other.WellFormed topLevel maxLevel →
    Swept mergeThreshold before other otherMerged → other = after
  final : ∀ id : CellId, after.isSplit id = true → merge mergeThreshold after id = .ok none
  again : mergeSweep after mergeThreshold = .ok (after, [])

/-- A sweep settles a well-formed forest if the sums that it forms fit into registers, and else it
stops where one of them does not. -/
theorem settled_or_stopped (wellFormed : forest.WellFormed topLevel maxLevel)
    (mergeThreshold : Nat) :
    (forest.FitsRegisters mergeThreshold → ∃ (after : Forest) (merged : List CellId),
      mergeSweep forest mergeThreshold = .ok (after, merged) ∧
        Settled topLevel maxLevel mergeThreshold forest after merged) ∧
    (¬ forest.FitsRegisters mergeThreshold → ∃ id : CellId, forest.isSplit id = true ∧
      Tally.registerLimit < forest.sumAt mergeThreshold id ∧
        mergeSweep forest mergeThreshold = .error (.overflow id)) := by
  have remains := wellFormed.wellFormed_mergeSweep mergeThreshold
  have swept := wellFormed.swept_mergeSweep mergeThreshold
  refine ⟨fun fits => ?_, fun beyond => ?_⟩
  · exact ⟨_, _, mergeSweep_of_fits wellFormed fits, remains, swept,
      fun other _ known sweptOther => sweptOther.unique swept known remains,
      fun id split => merge_mergeSweep wellFormed fits split,
      mergeSweep_mergeSweep wellFormed fits⟩
  · rcases (merging_merge wellFormed).sweepBy_cases wellFormed with
      ⟨fits, _⟩ | ⟨id, split, sum, stopped⟩
    · exact absurd fits beyond
    · exact ⟨id, split, Nat.not_le.mp sum, stopped⟩

/-- Clients of one bucket on a face that was split: they are merged into the face if there are
fewer of them than the threshold, and are left alone if there are as many. -/
theorem settled_around : ∃ place : Location, Bucket.representative "u09" = .ok place ∧
    let face := place.cellAt 0
    let before := splitInto face (around place "u09" 3)
    before.WellFormed 0 1 ∧
      (∃ after, mergeSweep before 4 = .ok (after, [face]) ∧ Settled 0 1 4 before after [face] ∧
        ∃ cell : Cell, after.cells[face]? = some cell ∧ cell.children = [] ∧
          cell.tally.buckets["u09"]? = some ⟨place, 3⟩) ∧
      mergeSweep before 3 = .ok (before, []) ∧ Settled 0 1 3 before before [] := by
  obtain ⟨place, located⟩ : ∃ place, Bucket.representative "u09" = .ok place := by
    have reads : (Bucket.representative "u09").isOk = true := by decide +kernel
    cases located : Bucket.representative "u09" with
    | error fault => simp [located, Except.isOk, Except.toBool] at reads
    | ok place => exact ⟨place, rfl⟩
  have parts := parts_around located (show 0 < 3 by decide)
  have isCell := isCell_face place
  have room := room_face place
  have wellFormed := parts.wellFormed isCell room
  rw [level_face] at wellFormed
  have three := sum_around place "u09" 3
  have small : ((around place "u09" 3).map fun leaf => leaf.2.clientCount).sum ≤
      Tally.registerLimit := three.trans_le (by decide)
  have fits := fitsRegisters_splitInto parts isCell room small
  refine ⟨place, located, wellFormed, ?_, ?_⟩
  · obtain ⟨after, merged, done, settled⟩ := (settled_or_stopped wellFormed 4).1 (fits 4)
    have only := merged_eq parts isCell room settled.swept
    rw [three, if_pos (by decide)] at only
    subst only
    have few : (splitInto (place.cellAt 0) (around place "u09" 3)).clientsBelow
        (place.cellAt 0) < 4 := by
      rw [parts.clientsBelow_top isCell room, three]
      decide
    obtain ⟨_, cell, present, whole, _, held⟩ := settled.swept.collapsed _
      (top_remains parts isCell room settled.swept) ((parts.isSplit_iff isCell room).mpr rfl) few
    have below : (splitInto (place.cellAt 0) (around place "u09" 3)).BucketBelow (place.cellAt 0)
        "u09" ⟨place, 3⟩ :=
      ⟨place.cellAt 1, _, getElem?_around located (by decide), rfl,
        place.contains_cellAt (Nat.zero_le 1) (by decide), rfl⟩
    exact ⟨after, done, settled, cell, present, whole, (held _ _).mpr below⟩
  · have stays := mergeSweep_splitInto parts isCell room small three.ge
    obtain ⟨after, merged, done, settled⟩ := (settled_or_stopped wellFormed 3).1 (fits 3)
    cases done.symm.trans stays
    exact ⟨stays, settled⟩

/-- A face that was split into two cells, with as many clients in a bucket of the one as of the
other. -/
def pair (clients : Nat) : Forest :=
  splitInto ⟨0x1000000000000000⟩
    [(⟨0x0400000000000000⟩,
        { tally := Tally.empty.add "7s3" ⟨-20.390625, -20.390625⟩ clients }),
      (⟨0x0C00000000000000⟩,
        { tally := Tally.empty.add "ee9" ⟨-20.390625, 20.390625⟩ clients })]

/-- The two cells are in order, too, provided that the two places lie in them. -/
theorem wellFormed_pair {clients : Nat} (positive : 0 < clients)
    (west : (⟨-20.390625, -20.390625⟩ : Location).FallsInto ⟨0x0400000000000000⟩)
    (east : (⟨-20.390625, 20.390625⟩ : Location).FallsInto ⟨0x0C00000000000000⟩) :
    (pair clients).WellFormed 0 1 := by
  have westLocated : Bucket.representative "7s3" = .ok ⟨-20.390625, -20.390625⟩ :=
    Bucket.representative_eq_ok (by decide +kernel)
  have eastLocated : Bucket.representative "ee9" = .ok ⟨-20.390625, 20.390625⟩ :=
    Bucket.representative_eq_ok (by decide +kernel)
  have listed : (⟨0x0C00000000000000⟩ : CellId) ∈ CellId.children ⟨0x1000000000000000⟩ := by
    decide
  have apart : (⟨0x0400000000000000⟩ : CellId) ∉ [(⟨0x0C00000000000000⟩ : CellId)] := by decide
  have eastPart : Parts ⟨0x1000000000000000⟩ [(⟨0x0C00000000000000⟩,
      { tally := Tally.empty.add "ee9" ⟨-20.390625, 20.390625⟩ clients })] :=
    ⟨List.cons_ne_nil _ _, List.nodup_singleton _, List.forall_mem_singleton.mpr listed,
      List.forall_mem_singleton.mpr rfl,
      List.forall_mem_singleton.mpr (sound_add eastLocated positive east)⟩
  have parts := eastPart.cons apart (by decide) rfl (sound_add westLocated positive west)
  exact parts.wellFormed (by decide) (by decide)

/-- With one client each the two cells are merged.  With `2 ^ 63` clients each count fits into a
register and an audit finds nothing wrong, but the sum at the face overflows before it is compared
with the threshold, and the sweep does not come to an end. -/
theorem overflow_pair :
    let face : CellId := ⟨0x1000000000000000⟩
    (∃ after, mergeSweep (pair 1) 200 = .ok (after, [face]) ∧
      ∃ cell, after.cells[face]? = some cell ∧ cell.tally.buckets.toList =
        [("7s3", ⟨⟨-20.390625, -20.390625⟩, 1⟩), ("ee9", ⟨⟨-20.390625, 20.390625⟩, 1⟩)]) ∧
      (pair (2 ^ 63)).audit = .ok () ∧
        (∀ leaf ∈ (pair (2 ^ 63)).activeCells,
          (pair (2 ^ 63)).countAt leaf ≤ Tally.registerLimit) ∧
          mergeSweep (pair (2 ^ 63)) 200 = .error (.overflow face) ∧
            ¬ ∃ (after : Forest) (merged : List CellId),
              mergeSweep (pair (2 ^ 63)) 200 = .ok (after, merged) ∧
                Swept 200 (pair (2 ^ 63)) after merged := by
  intro face
  have stops : mergeSweep (pair (2 ^ 63)) 200 = .error (.overflow face) := rfl
  refine ⟨⟨_, rfl, _, rfl, rfl⟩, rfl, by decide, stops, ?_⟩
  rintro ⟨after, merged, done, _⟩
  cases stops.symm.trans done

end Registers

end Forest

end LoadAtlas
