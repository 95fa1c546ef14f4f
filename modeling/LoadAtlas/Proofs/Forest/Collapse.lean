import LoadAtlas.Forest.Coarsen
import LoadAtlas.Proofs.Forest.Update

/-!
# Merges of well-formed forests

A merge removes the children of a cell, which are leaves, and lets the cell hold their buckets.
It undoes a split: the forest stays well formed, no client is lost, and every other cell stays
as it was.

The changes are counted with an arbitrary measure of cells, so that the same law serves for the
clients of a key in the whole forest and for the clients below one cell.
-/

namespace LoadAtlas

namespace Forest

variable {topLevel maxLevel mergeThreshold : Nat} {forest after : Forest} {id : CellId}
  {cell : Cell} {leaves : List (CellId × Cell)}

/-- One forest came out of another one by a merge: the children of a cell are gone, the cell is
a leaf, and nothing else changed. -/
structure Shrunk (before after : Forest) (id : CellId) (old new : Cell) : Prop where
  tops : after.tops = before.tops
  active : ∀ other : CellId,
    other ∈ after.active ↔ other = id ∨ other ∉ old.children ∧ other ∈ before.active
  earlier : before.cells[id]? = some old
  later : after.cells[id]? = some new
  isLeaf : new.isLeaf = true
  leaf : ∀ child ∈ old.children,
    ∃ leaf : Cell, before.cells[child]? = some leaf ∧ leaf.isLeaf = true
  gone : ∀ child ∈ old.children, after.cells[child]? = none
  others : ∀ other : CellId, other ≠ id → other ∉ old.children →
    after.cells[other]? = before.cells[other]?

namespace Shrunk

variable {before : Forest} {old new found : Cell} {other : CellId}

theorem not_mem_children (shrunk : Shrunk before after id old new) : id ∉ old.children := by
  intro member
  have gone := shrunk.gone id member
  simp [shrunk.later] at gone

theorem origin (shrunk : Shrunk before after id old new)
    (present : after.cells[other]? = some found) :
    other = id ∧ found = new ∨
      other ≠ id ∧ other ∉ old.children ∧ before.cells[other]? = some found := by
  by_cases same : other = id
  · subst same
    exact .inl ⟨rfl, by simpa [shrunk.later] using present.symm⟩
  · by_cases member : other ∈ old.children
    · simp [shrunk.gone other member] at present
    · exact .inr ⟨same, member, by rwa [← shrunk.others other same member]⟩

theorem exists_earlier (shrunk : Shrunk before after id old new)
    (present : after.cells[other]? = some found) :
    other ∉ old.children ∧ ∃ earlier : Cell, before.cells[other]? = some earlier := by
  rcases shrunk.origin present with ⟨rfl, _⟩ | ⟨_, notChild, earlier⟩
  · exact ⟨shrunk.not_mem_children, old, shrunk.earlier⟩
  · exact ⟨notChild, found, earlier⟩

/-- Exactly the children are gone. -/
theorem mem_cells_iff (shrunk : Shrunk before after id old new) :
    other ∈ after.cells ↔ other ∈ before.cells ∧ other ∉ old.children := by
  constructor
  · intro member
    obtain ⟨found, present⟩ := Forest.mem_cells_iff.mp member
    obtain ⟨notChild, earlier⟩ := shrunk.exists_earlier present
    exact ⟨Forest.mem_cells_iff.mpr earlier, notChild⟩
  · rintro ⟨member, notChild⟩
    obtain ⟨cell, present⟩ := Forest.mem_cells_iff.mp member
    by_cases same : other = id
    · subst same
      exact Forest.mem_cells_iff.mpr ⟨new, shrunk.later⟩
    · exact Forest.mem_cells_iff.mpr ⟨cell, by rwa [shrunk.others other same notChild]⟩

end Shrunk

namespace WellFormed

variable {before : Forest} {old new found : Cell} {other child : CellId}

section

variable (wellFormed : before.WellFormed topLevel maxLevel)
  (shrunk : Shrunk before after id old new)

include wellFormed shrunk

/-- The children that are gone lie too deep to be top cells. -/
theorem mem_tops_of_shrunk_iff :
    other ∈ after.tops ↔ other ∈ after.cells ∧ other.level = topLevel := by
  rw [shrunk.tops, wellFormed.tops, shrunk.mem_cells_iff]
  refine and_congr_left fun level => (and_iff_left fun isChild => ?_).symm
  have deeper := (wellFormed.child shrunk.earlier isChild).2.1
  have notAbove := (wellFormed.levels shrunk.earlier).1
  omega

/-- The parent of a cell that is not gone is neither the merged cell nor gone itself. -/
theorem parent_of_shrunk (present : after.cells[other]? = some found)
    (deep : topLevel < other.level) :
    ∃ parent : Cell, after.cells[other.ancestor (other.level - 1)]? = some parent ∧
      other ∈ parent.children := by
  obtain ⟨notChild, _, earlier⟩ := shrunk.exists_earlier present
  obtain ⟨parent, parentPresent, member⟩ := wellFormed.parent earlier deep
  have notMerged : other.ancestor (other.level - 1) ≠ id := by
    intro same
    rw [same, shrunk.earlier] at parentPresent
    obtain rfl : old = parent := by simpa using parentPresent
    exact notChild member
  have parentNotChild : other.ancestor (other.level - 1) ∉ old.children := by
    intro isChild
    obtain ⟨leaf, leafPresent, isLeaf⟩ := shrunk.leaf _ isChild
    obtain rfl : parent = leaf := by simpa [parentPresent] using leafPresent
    rw [Cell.isLeaf_iff.mp isLeaf] at member
    exact List.not_mem_nil member
  exact ⟨parent, by rwa [shrunk.others _ notMerged parentNotChild], member⟩

/-- A cell that is still split kept all its children, as a cell has one parent. -/
theorem child_of_shrunk (present : after.cells[other]? = some found)
    (member : child ∈ found.children) :
    child ∈ after.cells ∧ child.level = other.level + 1 ∧ other.contains child = true := by
  rcases shrunk.origin present with ⟨_, rfl⟩ | ⟨different, _, earlier⟩
  · rw [Cell.isLeaf_iff.mp shrunk.isLeaf] at member
    exact absurd member List.not_mem_nil
  · obtain ⟨there, inside⟩ := wellFormed.child earlier member
    refine ⟨shrunk.mem_cells_iff.mpr ⟨there, fun isChild => different ?_⟩, inside⟩
    rw [(wellFormed.parent_unique earlier member).2.1,
      (wellFormed.parent_unique shrunk.earlier isChild).2.1]

theorem mem_active_of_shrunk_iff : other ∈ after.active ↔
    ∃ cell : Cell, after.cells[other]? = some cell ∧ cell.isLeaf = true := by
  rw [shrunk.active, wellFormed.active]
  constructor
  · rintro (rfl | ⟨notChild, cell, earlier, isLeaf⟩)
    · exact ⟨new, shrunk.later, shrunk.isLeaf⟩
    · by_cases same : other = id
      · subst same
        exact ⟨new, shrunk.later, shrunk.isLeaf⟩
      · exact ⟨cell, by rwa [shrunk.others other same notChild], isLeaf⟩
  · rintro ⟨cell, present, isLeaf⟩
    rcases shrunk.origin present with ⟨same, _⟩ | ⟨_, notChild, earlier⟩
    · exact .inl same
    · exact .inr ⟨notChild, cell, earlier, isLeaf⟩

end

/-- A forest stays well formed when it shrinks to a cell with a sound tally. -/
theorem shrink (wellFormed : before.WellFormed topLevel maxLevel)
    (shrunk : Shrunk before after id old new) (sound : new.Sound id) :
    after.WellFormed topLevel maxLevel where
  isCell present := by
    obtain ⟨_, _, earlier⟩ := shrunk.exists_earlier present
    exact wellFormed.isCell earlier
  levels present := by
    obtain ⟨_, _, earlier⟩ := shrunk.exists_earlier present
    exact wellFormed.levels earlier
  tops _ := wellFormed.mem_tops_of_shrunk_iff shrunk
  parent := wellFormed.parent_of_shrunk shrunk
  child := wellFormed.child_of_shrunk shrunk
  active _ := wellFormed.mem_active_of_shrunk_iff shrunk
  sound present := by
    rcases shrunk.origin present with ⟨rfl, rfl⟩ | ⟨_, _, earlier⟩
    · exact sound
    · exact wellFormed.sound earlier

end WellFormed

/-! ## The leaves below a cell -/

/-- Some leaves with their names are the children of a cell. -/
structure Leaves (forest : Forest) (cell : Cell) (leaves : List (CellId × Cell)) : Prop where
  names : leaves.map Prod.fst = cell.children
  present : ∀ leaf ∈ leaves, forest.cells[leaf.1]? = some leaf.2
  isLeaf : ∀ leaf ∈ leaves, leaf.2.isLeaf = true

theorem leafNamed?_eq_some_iff {name : CellId} {leaf : CellId × Cell} :
    forest.leafNamed? name = some leaf ↔
      leaf.1 = name ∧ forest.cells[leaf.1]? = some leaf.2 ∧ leaf.2.isLeaf = true := by
  obtain ⟨other, found⟩ := leaf
  cases present : forest.cells[name]? with
  | none =>
      simp only [leafNamed?, present, reduceCtorEq, false_iff]
      rintro ⟨rfl, foundPresent, _⟩
      simp [present] at foundPresent
  | some cell =>
      by_cases isLeaf : cell.isLeaf = true
      · simp only [leafNamed?, present, isLeaf, ↓reduceIte, Option.some.injEq, Prod.mk.injEq]
        constructor
        · rintro ⟨rfl, rfl⟩
          exact ⟨rfl, present, isLeaf⟩
        · rintro ⟨rfl, foundPresent, _⟩
          exact ⟨rfl, by simpa [present] using foundPresent⟩
      · simp only [leafNamed?, present, isLeaf, Bool.false_eq_true, ↓reduceIte, reduceCtorEq,
          false_iff]
        rintro ⟨rfl, foundPresent, foundLeaf⟩
        obtain rfl : cell = found := by simpa [present] using foundPresent
        exact isLeaf foundLeaf

private theorem mapM_leafNamed?_eq_some_iff (forest : Forest) (names : List CellId)
    (leaves : List (CellId × Cell)) :
    names.mapM forest.leafNamed? = some leaves ↔
      leaves.map Prod.fst = names ∧
        ∀ leaf ∈ leaves, forest.cells[leaf.1]? = some leaf.2 ∧ leaf.2.isLeaf = true := by
  induction names generalizing leaves with
  | nil =>
      simp only [List.mapM_nil, pure, Option.some.injEq, List.map_eq_nil_iff]
      exact ⟨fun same => same ▸ by simp, fun ⟨same, _⟩ => same.symm⟩
  | cons name names induction =>
      simp only [List.mapM_cons, Option.bind_eq_bind, Option.pure_def, Option.bind_eq_some_iff,
        Option.some.injEq, leafNamed?_eq_some_iff, induction]
      constructor
      · rintro ⟨leaf, ⟨rfl, here⟩, rest, ⟨rfl, all⟩, rfl⟩
        exact ⟨rfl, List.forall_mem_cons.mpr ⟨here, all⟩⟩
      · rintro ⟨split, all⟩
        cases leaves with
        | nil => simp at split
        | cons leaf leaves =>
            obtain ⟨rfl, rfl⟩ : leaf.1 = name ∧ leaves.map Prod.fst = names := by
              simpa using split
            obtain ⟨here, later⟩ := List.forall_mem_cons.mp all
            exact ⟨leaf, ⟨rfl, here⟩, leaves, ⟨rfl, later⟩, rfl⟩

theorem leafChildren?_eq_some_iff :
    forest.leafChildren? cell = some leaves ↔ Leaves forest cell leaves := by
  rw [leafChildren?, mapM_leafNamed?_eq_some_iff]
  exact ⟨fun ⟨names, all⟩ => ⟨names, fun leaf member => (all leaf member).1,
    fun leaf member => (all leaf member).2⟩, fun leaves => ⟨leaves.names, fun leaf member =>
      ⟨leaves.present leaf member, leaves.isLeaf leaf member⟩⟩⟩

/-- If the children of a cell are not all leaves, one of them is missing or was split. -/
theorem exists_child_of_leafChildren?_eq_none (noLeaves : forest.leafChildren? cell = none) :
    ∃ child ∈ cell.children, forest.leafNamed? child = none := by
  rw [leafChildren?] at noLeaves
  generalize cell.children = children at noLeaves
  induction children with
  | nil => simp at noLeaves
  | cons child children induction =>
      cases named : forest.leafNamed? child with
      | none => exact ⟨child, List.mem_cons_self, named⟩
      | some leaf =>
          have rest : children.mapM forest.leafNamed? = none := by
            rw [Option.eq_none_iff_forall_ne_some]
            simpa [List.mapM_cons, named, Option.bind_eq_none_iff] using noLeaves
          obtain ⟨found, member, missing⟩ := induction rest
          exact ⟨found, List.mem_cons_of_mem child member, missing⟩

/-! ## One merge -/

/-- The forest without some leaves. -/
def clear (forest : Forest) (leaves : List (CellId × Cell)) : Forest :=
  leaves.foldl (fun forest leaf => forest.removeLeaf leaf.1) forest

/-- A tally with the buckets of some leaves added to it. -/
def gather (tally : Tally) (leaves : List (CellId × Cell)) : Tally :=
  leaves.foldl (fun tally leaf => tally.absorb leaf.2.tally.buckets) tally

/-- The forest in which a cell took back the buckets of the leaves below it. -/
def collapse (forest : Forest) (id : CellId) (cell : Cell) (leaves : List (CellId × Cell)) :
    Forest :=
  (forest.clear leaves).insertLeaf id { tally := gather cell.tally leaves }

/-- A merge happens exactly if the children are leaves and hold fewer clients than asked for. -/
theorem merge?_eq_some_iff : forest.merge? id mergeThreshold = some after ↔
    ∃ (cell : Cell) (leaves : List (CellId × Cell)), forest.cells[id]? = some cell ∧
      Leaves forest cell leaves ∧
      (leaves.map fun leaf => leaf.2.clientCount).sum < mergeThreshold ∧
      after = forest.collapse id cell leaves := by
  cases present : forest.cells[id]? with
  | none => simp [merge?, present]
  | some cell =>
      simp only [Option.some.injEq, exists_and_left, exists_eq_left', merge?, present]
      cases found : forest.leafChildren? cell with
      | none =>
          simp only [reduceCtorEq, false_iff, not_exists, not_and]
          intro leaves areLeaves
          simp [leafChildren?_eq_some_iff.mpr areLeaves] at found
      | some leaves =>
          have areLeaves := leafChildren?_eq_some_iff.mp found
          have unique : ∀ {others : List (CellId × Cell)}, Leaves forest cell others →
              others = leaves := by
            intro others areOthers
            rw [leafChildren?_eq_some_iff.mpr areOthers] at found
            simpa using found
          by_cases full : mergeThreshold ≤ (leaves.map fun leaf => leaf.2.clientCount).sum
          · simp only [if_pos full, reduceCtorEq, false_iff, not_exists, not_and]
            intro others areOthers few
            rw [unique areOthers] at few
            omega
          · simp only [if_neg full, Option.some.injEq]
            constructor
            · intro same
              exact ⟨leaves, areLeaves, by omega, same.symm⟩
            · rintro ⟨others, areOthers, _, rfl⟩
              rw [unique areOthers]
              rfl

section Clear

theorem tops_clear (forest : Forest) (leaves : List (CellId × Cell)) :
    (forest.clear leaves).tops = forest.tops := by
  induction leaves generalizing forest with
  | nil => rfl
  | cons leaf leaves induction => exact induction (forest.removeLeaf leaf.1)

theorem mem_active_clear {other : CellId} : other ∈ (forest.clear leaves).active ↔
    other ∉ leaves.map Prod.fst ∧ other ∈ forest.active := by
  induction leaves generalizing forest with
  | nil => simp [clear]
  | cons leaf leaves induction =>
      refine (@induction (forest.removeLeaf leaf.1)).trans ?_
      simp only [active_removeLeaf, Std.ExtTreeSet.mem_erase, ne_eq,
        Std.LawfulEqOrd.compare_eq_iff_eq, List.map_cons, List.mem_cons, not_or,
        eq_comm (a := leaf.1)]
      exact ⟨fun ⟨apart, different, active⟩ => ⟨⟨different, apart⟩, active⟩,
        fun ⟨⟨different, apart⟩, active⟩ => ⟨apart, different, active⟩⟩

theorem getElem?_clear_of_not_mem {other : CellId} (apart : other ∉ leaves.map Prod.fst) :
    (forest.clear leaves).cells[other]? = forest.cells[other]? := by
  induction leaves generalizing forest with
  | nil => rfl
  | cons leaf leaves induction =>
      rw [List.map_cons, List.mem_cons, not_or] at apart
      refine (@induction (forest.removeLeaf leaf.1) apart.2).trans ?_
      rw [cells_removeLeaf, Std.ExtTreeMap.getElem?_erase, if_neg]
      simpa using Ne.symm apart.1

theorem getElem?_clear_of_mem {other : CellId} (member : other ∈ leaves.map Prod.fst) :
    (forest.clear leaves).cells[other]? = none := by
  induction leaves generalizing forest with
  | nil => simp at member
  | cons leaf leaves induction =>
      by_cases later : other ∈ leaves.map Prod.fst
      · exact induction later
      · refine (getElem?_clear_of_not_mem later).trans ?_
        rw [List.map_cons, List.mem_cons] at member
        simp [member.resolve_right later]

theorem sum_clear (measure : CellId → Cell → Nat) (distinct : (leaves.map Prod.fst).Nodup)
    (present : ∀ leaf ∈ leaves, forest.cells[leaf.1]? = some leaf.2) :
    Table.sum measure (forest.clear leaves).cells +
        (leaves.map fun leaf => measure leaf.1 leaf.2).sum =
      Table.sum measure forest.cells := by
  induction leaves generalizing forest with
  | nil => rfl
  | cons leaf leaves induction =>
      rw [List.map_cons, List.nodup_cons] at distinct
      have stillPresent : ∀ later ∈ leaves,
          (forest.removeLeaf leaf.1).cells[later.1]? = some later.2 := by
        intro later member
        have different : leaf.1 ≠ later.1 := fun same =>
          distinct.1 (same ▸ List.mem_map_of_mem member)
        rw [cells_removeLeaf, Std.ExtTreeMap.getElem?_erase, if_neg (by simpa using different)]
        exact present later (List.mem_cons_of_mem _ member)
      have rest : Table.sum measure (forest.clear (leaf :: leaves)).cells +
          (leaves.map fun leaf => measure leaf.1 leaf.2).sum =
            Table.sum measure (forest.cells.erase leaf.1) := induction distinct.2 stillPresent
      have erased := Table.sum_erase measure forest.cells leaf.1
      simp only [Table.measureAt, present leaf List.mem_cons_self] at erased
      rw [List.map_cons, List.sum_cons]
      omega

end Clear

section Gather

variable {tally : Tally}

theorem sound_gather (sound : tally.Sound) (leavesSound : ∀ leaf ∈ leaves, leaf.2.tally.Sound) :
    (gather tally leaves).Sound := by
  induction leaves generalizing tally with
  | nil => exact sound
  | cons leaf leaves induction =>
      obtain ⟨here, later⟩ := List.forall_mem_cons.mp leavesSound
      exact induction (sound.absorb here.buckets) later

theorem weigh_gather (weight : String → Nat) (tally : Tally) (leaves : List (CellId × Cell)) :
    (gather tally leaves).buckets.weigh weight =
      tally.buckets.weigh weight +
        (leaves.map fun leaf => leaf.2.tally.buckets.weigh weight).sum := by
  induction leaves generalizing tally with
  | nil => rfl
  | cons leaf leaves induction =>
      refine (induction (tally.absorb leaf.2.tally.buckets)).trans ?_
      rw [Tally.weigh_absorb, List.map_cons, List.sum_cons, Nat.add_assoc]

theorem total_gather (sound : tally.Sound) (leavesSound : ∀ leaf ∈ leaves, leaf.2.tally.Sound) :
    (gather tally leaves).total =
      tally.total + (leaves.map fun leaf => leaf.2.clientCount).sum := by
  induction leaves generalizing tally with
  | nil => rfl
  | cons leaf leaves induction =>
      obtain ⟨here, later⟩ := List.forall_mem_cons.mp leavesSound
      refine (induction (sound.absorb here.buckets) later).trans ?_
      rw [Tally.total_absorb, ← here.balanced, List.map_cons, List.sum_cons, Nat.add_assoc]
      rfl

/-- Leaves without a common key are gathered into a tally that holds exactly their buckets. -/
theorem getElem?_gather (sound : tally.Sound)
    (leavesSound : ∀ leaf ∈ leaves, leaf.2.tally.Sound)
    (apart : (tally :: leaves.map fun leaf => leaf.2.tally).Pairwise fun first second =>
      ∀ key : String, first.buckets[key]? = none ∨ second.buckets[key]? = none)
    (key : String) (bucket : Bucket) :
    (gather tally leaves).buckets[key]? = some bucket ↔
      tally.buckets[key]? = some bucket ∨
        ∃ leaf ∈ leaves, leaf.2.tally.buckets[key]? = some bucket := by
  induction leaves generalizing tally with
  | nil => simp [gather]
  | cons leaf leaves induction =>
      obtain ⟨here, later⟩ := List.forall_mem_cons.mp leavesSound
      rw [List.map_cons, List.pairwise_cons, List.pairwise_cons] at apart
      obtain ⟨tallyApart, leafApart, restApart⟩ := apart
      have absorbed : ∀ key : String, (tally.absorb leaf.2.tally.buckets).buckets[key]? =
          (tally.buckets[key]?).or leaf.2.tally.buckets[key]? :=
        sound.getElem?_absorb here.buckets (tallyApart leaf.2.tally List.mem_cons_self)
      have step := induction (sound.absorb here.buckets) later
        (List.pairwise_cons.mpr ⟨fun other member key => ?_, restApart⟩)
      · refine step.trans ?_
        rw [absorbed, List.exists_mem_cons_iff]
        rcases tallyApart leaf.2.tally List.mem_cons_self key with absent | absent
        · simp [absent]
        · simp [absent]
      · rw [absorbed]
        rcases leafApart other member key with absent | absent
        · rcases tallyApart other (List.mem_cons_of_mem _ member) key with alsoAbsent | alsoAbsent
          · exact .inl (by simp [absent, alsoAbsent])
          · exact .inr alsoAbsent
        · exact .inr absent

end Gather

namespace WellFormed

section Collapse

variable (wellFormed : forest.WellFormed topLevel maxLevel)
  (present : forest.cells[id]? = some cell) (areLeaves : Leaves forest cell leaves)

include wellFormed present areLeaves

theorem nodup_leaves : (leaves.map Prod.fst).Nodup := by
  rw [areLeaves.names]
  exact (wellFormed.sound present).nodup

theorem inside_of_leaf {leaf : CellId × Cell} (member : leaf ∈ leaves) :
    leaf.1.level = id.level + 1 ∧ id.contains leaf.1 = true := by
  have listed : leaf.1 ∈ cell.children := areLeaves.names ▸ List.mem_map_of_mem member
  exact (wellFormed.child present listed).2

theorem not_mem_leaves : id ∉ leaves.map Prod.fst := by
  intro member
  obtain ⟨leaf, leafMember, same⟩ := List.mem_map.mp member
  have level := (wellFormed.inside_of_leaf present areLeaves leafMember).1
  rw [same] at level
  omega

theorem shrunk_collapse : Shrunk forest (forest.collapse id cell leaves) id cell
    { tally := gather cell.tally leaves } := by
  refine ⟨tops_clear forest leaves, ?_, present, by simp [collapse], rfl, ?_, ?_, ?_⟩
  · intro other
    rw [collapse, active_insertLeaf, Std.ExtTreeSet.mem_insert, Std.LawfulEqOrd.compare_eq_iff_eq,
      mem_active_clear, areLeaves.names, eq_comm]
  · intro child member
    rw [← areLeaves.names] at member
    obtain ⟨leaf, leafMember, rfl⟩ := List.mem_map.mp member
    exact ⟨leaf.2, areLeaves.present leaf leafMember, areLeaves.isLeaf leaf leafMember⟩
  · intro child member
    rw [← areLeaves.names] at member
    have different : id ≠ child := fun same =>
      wellFormed.not_mem_leaves present areLeaves (same ▸ member)
    rw [collapse, cells_insertLeaf, Std.ExtTreeMap.getElem?_insert,
      if_neg (by simpa using different), getElem?_clear_of_mem member]
  · intro other different notChild
    rw [← areLeaves.names] at notChild
    rw [collapse, cells_insertLeaf, Std.ExtTreeMap.getElem?_insert,
      if_neg (by simpa using different.symm), getElem?_clear_of_not_mem notChild]

/-- No key is counted in two of the cells that a merge puts together. -/
theorem apart_leaves : (cell.tally :: leaves.map fun leaf => leaf.2.tally).Pairwise
    fun first second =>
      ∀ key : String, first.buckets[key]? = none ∨ second.buckets[key]? = none := by
  have apart : ∀ {first second : CellId} {firstCell secondCell : Cell}, first ≠ second →
      forest.cells[first]? = some firstCell → forest.cells[second]? = some secondCell →
        ∀ key : String, firstCell.tally.buckets[key]? = none ∨
          secondCell.tally.buckets[key]? = none := by
    intro first second firstCell secondCell different firstPresent secondPresent key
    by_contra both
    rw [not_or] at both
    obtain ⟨_, inFirst⟩ := Option.ne_none_iff_exists'.mp both.1
    obtain ⟨_, inSecond⟩ := Option.ne_none_iff_exists'.mp both.2
    exact different (wellFormed.cell_unique_of_key firstPresent inFirst secondPresent inSecond)
  rw [List.pairwise_cons]
  constructor
  · intro tally member
    obtain ⟨leaf, leafMember, rfl⟩ := List.mem_map.mp member
    refine apart (fun same => ?_) present (areLeaves.present leaf leafMember)
    exact wellFormed.not_mem_leaves present areLeaves (same ▸ List.mem_map_of_mem leafMember)
  · have distinct := wellFormed.nodup_leaves present areLeaves
    rw [List.Nodup, List.pairwise_map] at distinct
    rw [List.pairwise_map]
    exact distinct.imp_of_mem fun firstMember secondMember different =>
      apart different (areLeaves.present _ firstMember) (areLeaves.present _ secondMember)

theorem getElem?_collapse (key : String) (bucket : Bucket) :
    (gather cell.tally leaves).buckets[key]? = some bucket ↔
      cell.tally.buckets[key]? = some bucket ∨
        ∃ leaf ∈ leaves, leaf.2.tally.buckets[key]? = some bucket :=
  getElem?_gather (wellFormed.sound present).tally
    (fun leaf member => (wellFormed.sound (areLeaves.present leaf member)).tally)
    (wellFormed.apart_leaves present areLeaves) key bucket

theorem collapse : (forest.collapse id cell leaves).WellFormed topLevel maxLevel := by
  have leavesSound : ∀ leaf ∈ leaves, leaf.2.tally.Sound := fun leaf member =>
    (wellFormed.sound (areLeaves.present leaf member)).tally
  refine wellFormed.shrink (wellFormed.shrunk_collapse present areLeaves)
    (Cell.sound_leaf (sound_gather (wellFormed.sound present).tally leavesSound) ?_)
  intro key bucket held
  rcases (wellFormed.getElem?_collapse present areLeaves key bucket).mp held with
    own | ⟨leaf, member, inLeaf⟩
  · exact (wellFormed.sound present).placed key bucket own
  · have leafFalls := (wellFormed.sound (areLeaves.present leaf member)).placed key bucket inLeaf
    exact leafFalls.of_contains (wellFormed.isCell present)
      (wellFormed.inside_of_leaf present areLeaves member).2

/-- A merge exchanges the measures of a cell and its children for that of the merged cell. -/
theorem sum_collapse (measure : CellId → Cell → Nat) :
    Table.sum measure (forest.collapse id cell leaves).cells + measure id cell +
        (leaves.map fun leaf => measure leaf.1 leaf.2).sum =
      Table.sum measure forest.cells + measure id { tally := gather cell.tally leaves } := by
  have cleared := sum_clear measure (wellFormed.nodup_leaves present areLeaves) areLeaves.present
  have stillPresent : (forest.clear leaves).cells[id]? = some cell := by
    rw [getElem?_clear_of_not_mem (wellFormed.not_mem_leaves present areLeaves), present]
  have inserted := Table.sum_insert_of_present measure stillPresent
    { tally := gather cell.tally leaves }
  rw [Forest.collapse, cells_insertLeaf]
  omega

theorem weigh_collapse (weight : String → Nat) :
    (forest.collapse id cell leaves).weigh weight = forest.weigh weight := by
  have exchanged := wellFormed.sum_collapse present areLeaves
    fun _ cell => cell.tally.buckets.weigh weight
  have gathered := weigh_gather weight cell.tally leaves
  simp only at exchanged
  rw [weigh, weigh]
  omega

end Collapse

/-- A merge keeps a forest well formed and loses no client, wherever it is made. -/
theorem merge? (wellFormed : forest.WellFormed topLevel maxLevel)
    (merged : forest.merge? id mergeThreshold = some after) :
    Kept topLevel maxLevel forest after := by
  obtain ⟨cell, leaves, present, areLeaves, _, rfl⟩ := merge?_eq_some_iff.mp merged
  exact ⟨wellFormed.collapse present areLeaves, wellFormed.weigh_collapse present areLeaves⟩

end WellFormed

/-! ## All merges of a sweep -/

variable {before : Forest} {sweeping : Sweeping}

theorem Kept.mergeCell (kept : Kept topLevel maxLevel before sweeping.forest) (id : CellId) :
    Kept topLevel maxLevel before (mergeCell mergeThreshold sweeping id).forest := by
  cases merged : sweeping.forest.merge? id mergeThreshold with
  | none => simpa [Forest.mergeCell, merged] using kept
  | some after => simpa [Forest.mergeCell, merged] using kept.trans (kept.wellFormed.merge? merged)

/-- A sweep keeps a forest well formed and loses no client. -/
theorem WellFormed.mergeSweep (wellFormed : forest.WellFormed topLevel maxLevel)
    (mergeThreshold : Nat) :
    Kept topLevel maxLevel forest (forest.mergeSweep mergeThreshold).1 := by
  refine List.foldlRecOn (motive := fun sweeping => Kept topLevel maxLevel forest sweeping.forest)
    forest.topCells (mergeBelow mergeThreshold) (b := ⟨forest, []⟩) (.refl wellFormed)
    fun sweeping kept top _ => ?_
  exact List.foldlRecOn (motive := fun sweeping => Kept topLevel maxLevel forest sweeping.forest)
    _ (Forest.mergeCell mergeThreshold) kept fun _ kept id _ => kept.mergeCell id

end Forest

end LoadAtlas
