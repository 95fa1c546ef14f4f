import LoadAtlas.Proofs.Forest.Below

/-!
# Sweeps

A sweep goes through a list of cells that was read off the forest before the first merge, and
decides over each cell by the leaves that it finds below it then.  Yet its result can be told
from the forest before: exactly the split cells with fewer clients below them than the merge
threshold are merged, whatever lies below a merged cell is gone, and everything else stays as
it was.

The invariant is stated for the cells that the sweep has come to so far.  It carries over one
cell because the list never names a cell before a cell inside it: when the sweep comes to a
cell, everything inside the cell has been decided over and nothing around it has.
-/

namespace LoadAtlas

namespace Forest

variable {topLevel maxLevel mergeThreshold : Nat} {before : Forest} {done pending : List CellId}
  {sweeping : Sweeping} {id other : CellId}

/-- A sweep that has come to some cells of a forest so far. -/
structure Underway (topLevel maxLevel mergeThreshold : Nat) (before : Forest)
    (done : List CellId) (sweeping : Sweeping) : Prop where
  wellFormed : sweeping.forest.WellFormed topLevel maxLevel
  tops : sweeping.forest.tops = before.tops
  /-- A cell is gone if it lies below a merged cell. -/
  mem_iff : ∀ id : CellId, id ∈ sweeping.forest.cells ↔ id ∈ before.cells ∧
    ∀ outer ∈ done, outer ≠ id → outer.contains id = true →
      mergeThreshold ≤ before.clientsBelow outer
  /-- A cell that was not merged stays as it was. -/
  same : ∀ id ∈ sweeping.forest.cells,
    (id ∈ done → mergeThreshold ≤ before.clientsBelow id) →
      sweeping.forest.cells[id]? = before.cells[id]?
  /-- A merged cell is a leaf. -/
  leaf : ∀ (id : CellId) (cell : Cell), sweeping.forest.cells[id]? = some cell → id ∈ done →
    before.clientsBelow id < mergeThreshold → cell.isLeaf = true
  clients : ∀ id ∈ sweeping.forest.cells,
    sweeping.forest.clientsBelow id = before.clientsBelow id
  buckets : ∀ id ∈ sweeping.forest.cells, ∀ (key : String) (bucket : Bucket),
    sweeping.forest.BucketBelow id key bucket ↔ before.BucketBelow id key bucket
  merged : sweeping.merged = done.filter fun id => before.clientsBelow id < mergeThreshold

/-- A sweep may come to a cell: nothing around it was decided over, everything inside it was. -/
structure Due (before : Forest) (done : List CellId) (id : CellId) : Prop where
  split : before.isSplit id = true
  outside : ∀ outer ∈ done, outer.contains id = false
  inside : ∀ inner, before.isSplit inner = true → id.contains inner = true → inner ≠ id →
    inner ∈ done

theorem underway_start (wellFormed : before.WellFormed topLevel maxLevel) (mergeThreshold : Nat) :
    Underway topLevel maxLevel mergeThreshold before [] ⟨before, []⟩ where
  wellFormed := wellFormed
  tops := rfl
  mem_iff := by simp
  same _ _ _ := rfl
  leaf _ _ _ member := absurd member List.not_mem_nil
  clients _ _ := rfl
  buckets _ _ _ _ := Iff.rfl
  merged := rfl

/-! ## One cell -/

/-- A cell that is not merged leaves everything as it was. -/
theorem Underway.skip
    (underway : Underway topLevel maxLevel mergeThreshold before done sweeping)
    (many : mergeThreshold ≤ before.clientsBelow id) :
    Underway topLevel maxLevel mergeThreshold before (done ++ [id]) sweeping where
  wellFormed := underway.wellFormed
  tops := underway.tops
  mem_iff other := by
    rw [underway.mem_iff other]
    refine and_congr_right fun _ => ⟨fun kept outer member => ?_, fun kept outer member =>
      kept outer (List.mem_append_left _ member)⟩
    rcases List.mem_append.mp member with earlier | last
    · exact kept outer earlier
    · obtain rfl := List.mem_singleton.mp last
      exact fun _ _ => many
  same other member notMerged :=
    underway.same other member fun earlier => notMerged (List.mem_append_left _ earlier)
  leaf other cell present member few := by
    rcases List.mem_append.mp member with earlier | last
    · exact underway.leaf other cell present earlier few
    · obtain rfl := List.mem_singleton.mp last
      omega
  clients := underway.clients
  buckets := underway.buckets
  merged := by
    rw [underway.merged, List.filter_append, List.filter_singleton]
    simp [Nat.not_lt.mpr many]

section Collapse

variable {cell : Cell} {leaves : List (CellId × Cell)}
  (underway : Underway topLevel maxLevel mergeThreshold before done sweeping)
  (present : sweeping.forest.cells[id]? = some cell)
  (areLeaves : Leaves sweeping.forest cell leaves)
  (few : before.clientsBelow id < mergeThreshold)

include underway present areLeaves few

/-- When a cell is merged, what lies below it is gone: its children were leaves. -/
theorem Underway.mem_collapse_iff : other ∈ (sweeping.forest.collapse id cell leaves).cells ↔
    other ∈ before.cells ∧ ∀ outer ∈ done ++ [id], outer ≠ other → outer.contains other = true →
      mergeThreshold ≤ before.clientsBelow outer := by
  have now := underway.wellFormed
  have shrunk := now.shrunk_collapse present areLeaves
  rw [shrunk.mem_cells_iff]
  constructor
  · rintro ⟨member, notChild⟩
    obtain ⟨memberBefore, kept⟩ := (underway.mem_iff other).mp member
    refine ⟨memberBefore, fun outer outerMember different around => ?_⟩
    rcases List.mem_append.mp outerMember with earlier | last
    · exact kept outer earlier different around
    · -- the child towards the other cell is a leaf, so it is the other cell
      obtain rfl := List.mem_singleton.mp last
      obtain ⟨otherCell, otherPresent⟩ := mem_cells_iff.mp member
      obtain ⟨deeper, listed⟩ := now.shaped.child_toward present otherPresent around different
      obtain ⟨leaf, leafPresent, isLeaf⟩ := shrunk.leaf _ listed
      have same := now.shaped.eq_of_leaf_contains leafPresent isLeaf otherPresent
        (CellId.contains_ancestor (now.isCell otherPresent) deeper)
      exact absurd (same ▸ listed) notChild
  · rintro ⟨memberBefore, kept⟩
    have member : other ∈ sweeping.forest.cells := (underway.mem_iff other).mpr
      ⟨memberBefore, fun outer earlier => kept outer (List.mem_append_left _ earlier)⟩
    refine ⟨member, fun isChild => ?_⟩
    obtain ⟨_, level, around⟩ := now.child present isChild
    have different : id ≠ other := by
      rintro rfl
      omega
    have many := kept id (by simp) different around
    omega

/-- A cell that is merged becomes a leaf, and its children are gone. -/
theorem Underway.collapse : Underway topLevel maxLevel mergeThreshold before (done ++ [id])
      ⟨sweeping.forest.collapse id cell leaves, sweeping.merged ++ [id]⟩ := by
  have now := underway.wellFormed
  have shrunk := now.shrunk_collapse present areLeaves
  have remains_iff : ∀ {other : CellId},
      other ∈ (sweeping.forest.collapse id cell leaves).cells ↔
        other ∈ sweeping.forest.cells ∧ other ∉ cell.children := shrunk.mem_cells_iff
  refine ⟨now.collapse present areLeaves, shrunk.tops.trans underway.tops,
    fun other => underway.mem_collapse_iff present areLeaves few, ?_, ?_, ?_, ?_, ?_⟩
  · intro other remains notMerged
    obtain ⟨member, notChild⟩ := remains_iff.mp remains
    have different : other ≠ id := by
      rintro rfl
      have many := notMerged (by simp)
      omega
    rw [shrunk.others other different notChild]
    exact underway.same other member fun earlier => notMerged (List.mem_append_left _ earlier)
  · intro other found foundPresent member fewBelow
    by_cases same : other = id
    · subst same
      obtain rfl : { tally := gather cell.tally leaves } = found := by
        simpa [shrunk.later] using foundPresent
      rfl
    · have remains := mem_cells_iff.mpr ⟨found, foundPresent⟩
      rw [shrunk.others other same (remains_iff.mp remains).2] at foundPresent
      have earlier : other ∈ done := by simpa [same] using member
      exact underway.leaf other found foundPresent earlier fewBelow
  · intro other remains
    rw [now.clientsBelow_collapse present areLeaves remains]
    exact underway.clients other (remains_iff.mp remains).1
  · intro other remains key bucket
    rw [now.bucketBelow_collapse_iff present areLeaves remains]
    exact underway.buckets other (remains_iff.mp remains).1 key bucket
  · rw [List.filter_append, List.filter_singleton, ← underway.merged]
    simp [few]

end Collapse

/-- A cell that a sweep may come to is there and as it was. -/
theorem Underway.present_of_due (wellFormed : before.WellFormed topLevel maxLevel)
    (underway : Underway topLevel maxLevel mergeThreshold before done sweeping)
    (due : Due before done id) :
    id ∈ sweeping.forest.cells ∧ sweeping.forest.cells[id]? = before.cells[id]? := by
  obtain ⟨cell, presentBefore, _⟩ := isSplit_iff.mp due.split
  have notDone : id ∉ done := by
    intro earlier
    have apart := due.outside id earlier
    simp [CellId.contains_self (wellFormed.isCell presentBefore)] at apart
  have member : id ∈ sweeping.forest.cells := by
    rw [underway.mem_iff]
    refine ⟨mem_cells_iff.mpr ⟨cell, presentBefore⟩, fun outer earlier _ around => ?_⟩
    simp [due.outside outer earlier] at around
  exact ⟨member, underway.same id member fun earlier => absurd earlier notDone⟩

/-- Whether a cell is split and stays so in a sweep. -/
def staysSplit (mergeThreshold : Nat) (forest : Forest) (id : CellId) : Bool :=
  forest.isSplit id && decide (mergeThreshold ≤ forest.clientsBelow id)

theorem staysSplit_iff : before.staysSplit mergeThreshold id = true ↔
    before.isSplit id = true ∧ mergeThreshold ≤ before.clientsBelow id := by
  rw [staysSplit, Bool.and_eq_true, decide_eq_true_eq]

/-- When a sweep comes to a cell, the children that are split are those that stay split. -/
theorem Underway.isSplit_child
    (underway : Underway topLevel maxLevel mergeThreshold before done sweeping)
    (due : Due before done id) {cell : Cell} (present : sweeping.forest.cells[id]? = some cell)
    {child : CellId} (listed : child ∈ cell.children) :
    sweeping.forest.isSplit child = before.staysSplit mergeThreshold child := by
  obtain ⟨childMember, level, around⟩ := underway.wellFormed.child present listed
  have different : child ≠ id := by
    rintro rfl
    omega
  rw [Bool.eq_iff_iff, staysSplit_iff]
  constructor
  · intro split
    obtain ⟨childCell, childPresent, notLeaf⟩ := isSplit_iff.mp split
    have many : child ∈ done → mergeThreshold ≤ before.clientsBelow child := by
      intro earlier
      by_contra few
      have isLeaf := underway.leaf child childCell childPresent earlier (by omega)
      simp [notLeaf] at isLeaf
    rw [underway.same child childMember many] at childPresent
    have splitBefore := isSplit_iff.mpr ⟨childCell, childPresent, notLeaf⟩
    exact ⟨splitBefore, many (due.inside child splitBefore around different)⟩
  · rintro ⟨split, many⟩
    rw [isSplit, underway.same child childMember fun _ => many]
    exact split

/-- If a child of a cell that a sweep may come to is still split, it has too many clients below
it to be merged, and so has the cell. -/
theorem Underway.many_of_no_leaves (wellFormed : before.WellFormed topLevel maxLevel)
    (underway : Underway topLevel maxLevel mergeThreshold before done sweeping)
    (due : Due before done id) {cell : Cell} (present : sweeping.forest.cells[id]? = some cell)
    (noLeaves : sweeping.forest.leafChildren? cell = none) :
    mergeThreshold ≤ before.clientsBelow id := by
  obtain ⟨child, listed, notLeaf⟩ := exists_child_of_leafChildren?_eq_none noLeaves
  obtain ⟨childMember, _, around⟩ := underway.wellFormed.child present listed
  obtain ⟨childCell, childPresent⟩ := mem_cells_iff.mp childMember
  have split : sweeping.forest.isSplit child = true := by
    refine isSplit_iff.mpr ⟨childCell, childPresent, ?_⟩
    by_contra isLeaf
    have isThere := leafNamed?_eq_some_iff.mpr
      (show (child, childCell).1 = child ∧ _ from ⟨rfl, childPresent, by simpa using isLeaf⟩)
    simp [notLeaf] at isThere
  rw [underway.isSplit_child due present listed, staysSplit_iff] at split
  obtain ⟨idCell, idPresent, _⟩ := isSplit_iff.mp due.split
  have atMost := wellFormed.clientsBelow_le (mem_cells_iff.mpr ⟨idCell, idPresent⟩)
    ((underway.mem_iff child).mp childMember).1 around
  exact Nat.le_trans split.2 atMost

/-- When a sweep comes to a cell, the decision by the leaves below it then is the decision by
the clients below it before the sweep. -/
theorem Underway.mergeCell (wellFormed : before.WellFormed topLevel maxLevel)
    (underway : Underway topLevel maxLevel mergeThreshold before done sweeping)
    (due : Due before done id) :
    Underway topLevel maxLevel mergeThreshold before (done ++ [id])
      (mergeCell mergeThreshold sweeping id) := by
  have now := underway.wellFormed
  obtain ⟨cell, presentBefore, split⟩ := isSplit_iff.mp due.split
  obtain ⟨member, present⟩ := underway.present_of_due wellFormed due
  rw [presentBefore] at present
  cases found : sweeping.forest.leafChildren? cell with
  | none =>
      have unmerged : sweeping.forest.merge? id mergeThreshold = none := by
        simp [merge?, present, found]
      rw [Forest.mergeCell, unmerged]
      exact underway.skip (underway.many_of_no_leaves wellFormed due present found)
  | some leaves =>
      have areLeaves := leafChildren?_eq_some_iff.mp found
      have total := now.sum_leaves present areLeaves split
      rw [underway.clients id member] at total
      by_cases few : before.clientsBelow id < mergeThreshold
      · have merged : sweeping.forest.merge? id mergeThreshold =
            some (sweeping.forest.collapse id cell leaves) :=
          merge?_eq_some_iff.mpr ⟨cell, leaves, present, areLeaves, by omega, rfl⟩
        rw [Forest.mergeCell, merged]
        exact underway.collapse present areLeaves few
      · have unmerged : sweeping.forest.merge? id mergeThreshold = none := by
          have enough : mergeThreshold ≤ (leaves.map fun leaf => leaf.2.clientCount).sum := by
            omega
          simp only [merge?, present, found, if_pos enough]
        rw [Forest.mergeCell, unmerged]
        exact underway.skip (by omega)

/-! ## All cells -/

/-- The cells that a sweep still has to come to, after some that it came to. -/
structure Queue (before : Forest) (done pending : List CellId) : Prop where
  split : ∀ id ∈ pending, before.isSplit id = true
  /-- No cell stands before a cell inside it. -/
  ordered : (done ++ pending).Pairwise fun first second => first.contains second = false
  /-- Everything inside a cell to come is in the list too. -/
  closed : ∀ id ∈ pending, ∀ inner, before.isSplit inner = true → id.contains inner = true →
    inner ∈ done ++ pending

theorem Queue.due (queue : Queue before done (id :: pending)) : Due before done id := by
  obtain ⟨_, ordered, across⟩ := List.pairwise_append.mp queue.ordered
  refine ⟨queue.split id List.mem_cons_self, fun outer earlier =>
    across outer earlier id List.mem_cons_self, fun inner split inside different => ?_⟩
  rcases List.mem_append.mp (queue.closed id List.mem_cons_self inner split inside) with
    earlier | here
  · exact earlier
  · have later : inner ∈ pending := (List.mem_cons.mp here).resolve_left different
    have apart := (List.pairwise_cons.mp ordered).1 inner later
    simp [inside] at apart

theorem Queue.tail (queue : Queue before done (id :: pending)) :
    Queue before (done ++ [id]) pending where
  split other member := queue.split other (List.mem_cons_of_mem id member)
  ordered := by simpa using queue.ordered
  closed other member inner split inside := by
    simpa using queue.closed other (List.mem_cons_of_mem id member) inner split inside

theorem Underway.foldl_mergeCell (wellFormed : before.WellFormed topLevel maxLevel)
    (underway : Underway topLevel maxLevel mergeThreshold before done sweeping)
    (queue : Queue before done pending) :
    Underway topLevel maxLevel mergeThreshold before (done ++ pending)
      (pending.foldl (Forest.mergeCell mergeThreshold) sweeping) := by
  induction pending generalizing done sweeping with
  | nil => simpa using underway
  | cons id pending induction =>
      have step := induction (underway.mergeCell wellFormed queue.due) queue.tail
      simpa using step

/-! ## All top cells -/

/-- A sweep that is through with some top cells and has come to exactly the split cells below
them. -/
structure Through (topLevel maxLevel mergeThreshold : Nat) (before : Forest)
    (tops done : List CellId) (sweeping : Sweeping) : Prop where
  underway : Underway topLevel maxLevel mergeThreshold before done sweeping
  ordered : done.Pairwise fun first second => first.contains second = false
  mem_iff : ∀ id, id ∈ done ↔
    before.isSplit id = true ∧ ∃ top ∈ tops, top.contains id = true

variable {tops : List CellId} {top : CellId}

theorem through_start (wellFormed : before.WellFormed topLevel maxLevel) (mergeThreshold : Nat) :
    Through topLevel maxLevel mergeThreshold before [] [] ⟨before, []⟩ :=
  ⟨underway_start wellFormed mergeThreshold, List.Pairwise.nil, by simp⟩

namespace Through

variable (wellFormed : before.WellFormed topLevel maxLevel)
  (through : Through topLevel maxLevel mergeThreshold before tops done sweeping)
  (areTops : ∀ id ∈ top :: tops, id ∈ before.tops) (fresh : top ∉ tops)

include wellFormed through areTops fresh

/-- The sweep came to nothing around a cell below the next top cell: two top cells around one
cell are the same. -/
theorem outside (member : id ∈ before.cells) (inside : top.contains id = true) :
    ∀ outer ∈ done, outer.contains id = false := by
  intro outer outerDone
  obtain ⟨topMember, topLevelEq⟩ := (wellFormed.tops top).mp (areTops top List.mem_cons_self)
  obtain ⟨outerSplit, other, otherMember, around⟩ := (through.mem_iff outer).mp outerDone
  obtain ⟨otherThere, otherLevel⟩ :=
    (wellFormed.tops other).mp (areTops other (List.mem_cons_of_mem top otherMember))
  obtain ⟨_, outerPresent, _⟩ := isSplit_iff.mp outerSplit
  have otherIsCell := wellFormed.isCell_of_mem otherThere
  have isCell := wellFormed.isCell_of_mem member
  by_contra outerAround
  have otherAround : other.contains id = true := CellId.contains_trans otherIsCell
    (wellFormed.isCell outerPresent) isCell around (by simpa using outerAround)
  obtain rfl := CellId.eq_of_common (wellFormed.isCell_of_mem topMember) otherIsCell isCell inside
    otherAround (otherLevel.trans topLevelEq.symm)
  exact fresh otherMember

theorem mem_of_inside (member : id ∈ before.cells) (inside : top.contains id = true) :
    id ∈ sweeping.forest.cells := by
  rw [through.underway.mem_iff]
  refine ⟨member, fun outer outerDone _ around => ?_⟩
  simp [through.outside wellFormed areTops fresh member inside outer outerDone] at around

/-- Below the next top cell everything is as it was. -/
theorem untouched (member : id ∈ before.cells) (inside : top.contains id = true) :
    sweeping.forest.cells[id]? = before.cells[id]? := by
  refine through.underway.same id
    (through.mem_of_inside wellFormed areTops fresh member inside) fun isDone => ?_
  have apart := through.outside wellFormed areTops fresh member inside id isDone
  simp [CellId.contains_self (wellFormed.isCell_of_mem member)] at apart

theorem top_mem : top ∈ sweeping.forest.cells := by
  have topMember := ((wellFormed.tops top).mp (areTops top List.mem_cons_self)).1
  exact through.mem_of_inside wellFormed areTops fresh topMember
    (CellId.contains_self (wellFormed.isCell_of_mem topMember))

/-- The list of the next top cell names the cells that were split below it before the sweep. -/
theorem mem_splitCells_iff : id ∈ (sweeping.forest.splitCells top).reverse ↔
    before.isSplit id = true ∧ top.contains id = true := by
  rw [List.mem_reverse, through.underway.wellFormed.mem_splitCells_iff
    (through.top_mem wellFormed areTops fresh)]
  refine and_congr_left fun inside => ?_
  constructor
  · intro split
    obtain ⟨cell, present, notLeaf⟩ := isSplit_iff.mp split
    have member := ((through.underway.mem_iff id).mp (mem_cells_iff.mpr ⟨cell, present⟩)).1
    rw [through.untouched wellFormed areTops fresh member inside] at present
    exact isSplit_iff.mpr ⟨cell, present, notLeaf⟩
  · intro split
    obtain ⟨cell, present, notLeaf⟩ := isSplit_iff.mp split
    rw [← through.untouched wellFormed areTops fresh (mem_cells_iff.mpr ⟨cell, present⟩) inside]
      at present
    exact isSplit_iff.mpr ⟨cell, present, notLeaf⟩

theorem queue : Queue before done (sweeping.forest.splitCells top).reverse := by
  have listed : ∀ {id : CellId}, id ∈ (sweeping.forest.splitCells top).reverse ↔
      before.isSplit id = true ∧ top.contains id = true :=
    through.mem_splitCells_iff wellFormed areTops fresh
  have topMember := ((wellFormed.tops top).mp (areTops top List.mem_cons_self)).1
  refine ⟨fun id member => (listed.mp member).1, ?_, ?_⟩
  · rw [List.pairwise_append]
    refine ⟨through.ordered, through.underway.wellFormed.pairwise_reverse_splitCells
      (through.top_mem wellFormed areTops fresh), ?_⟩
    intro outer outerDone id member
    obtain ⟨split, inside⟩ := listed.mp member
    obtain ⟨cell, present, _⟩ := isSplit_iff.mp split
    exact through.outside wellFormed areTops fresh (mem_cells_iff.mpr ⟨cell, present⟩) inside
      outer outerDone
  · intro id member inner innerSplit innerInside
    obtain ⟨split, inside⟩ := listed.mp member
    obtain ⟨_, present, _⟩ := isSplit_iff.mp split
    obtain ⟨_, innerPresent, _⟩ := isSplit_iff.mp innerSplit
    exact List.mem_append_right _ (listed.mpr ⟨innerSplit,
      CellId.contains_trans (wellFormed.isCell_of_mem topMember) (wellFormed.isCell present)
        (wellFormed.isCell innerPresent) inside innerInside⟩)

theorem mergeBelow : Through topLevel maxLevel mergeThreshold before (tops ++ [top])
    (done ++ (sweeping.forest.splitCells top).reverse)
    (mergeBelow mergeThreshold sweeping top) := by
  have queue := through.queue wellFormed areTops fresh
  refine ⟨through.underway.foldl_mergeCell wellFormed queue, queue.ordered, fun id => ?_⟩
  rw [List.mem_append, through.mem_iff, through.mem_splitCells_iff wellFormed areTops fresh]
  simp only [List.mem_append, List.mem_singleton, or_and_right, exists_or, exists_eq_left,
    and_or_left]

end Through

theorem tops_step {later : List CellId} (areTops : ∀ id ∈ tops ++ top :: later, id ∈ before.tops)
    (distinct : (tops ++ top :: later).Nodup) :
    (∀ id ∈ top :: tops, id ∈ before.tops) ∧ top ∉ tops := by
  constructor
  · intro id member
    apply areTops
    rcases List.mem_cons.mp member with rfl | earlier
    · simp
    · exact List.mem_append_left _ earlier
  · intro member
    exact (List.nodup_append.mp distinct).2.2 top member top List.mem_cons_self rfl

theorem Through.foldl_mergeBelow (wellFormed : before.WellFormed topLevel maxLevel)
    (later : List CellId)
    (through : Through topLevel maxLevel mergeThreshold before tops done sweeping)
    (areTops : ∀ id ∈ tops ++ later, id ∈ before.tops) (distinct : (tops ++ later).Nodup) :
    ∃ done, Through topLevel maxLevel mergeThreshold before (tops ++ later) done
      (later.foldl (Forest.mergeBelow mergeThreshold) sweeping) := by
  induction later generalizing tops done sweeping with
  | nil => exact ⟨done, by simpa using through⟩
  | cons top later induction =>
      obtain ⟨headTops, fresh⟩ := tops_step areTops distinct
      have rest := induction (through.mergeBelow wellFormed headTops fresh) (by simpa using areTops)
        (by simpa using distinct)
      simpa using rest

/-! ## The whole sweep -/

/-- What a sweep makes of a forest, told from the forest alone. -/
structure Swept (mergeThreshold : Nat) (before after : Forest) (merged : List CellId) : Prop where
  tops : after.tops = before.tops
  /-- A cell remains unless a cell around it has too few clients below it. -/
  remains_iff : ∀ id : CellId, id ∈ after.cells ↔ id ∈ before.cells ∧
    ∀ outer ∈ before.cells, outer ≠ id → outer.contains id = true →
      mergeThreshold ≤ before.clientsBelow outer
  /-- A split cell stays split if it has enough clients below it. -/
  isSplit_iff : ∀ id ∈ after.cells, after.isSplit id = true ↔
    before.isSplit id = true ∧ mergeThreshold ≤ before.clientsBelow id
  /-- A merged cell is an active leaf with exactly the buckets that were below it. -/
  collapsed : ∀ id ∈ after.cells, before.isSplit id = true →
    before.clientsBelow id < mergeThreshold → id ∈ after.active ∧
      ∃ cell : Cell, after.cells[id]? = some cell ∧ cell.children = [] ∧
        cell.clientCount = before.clientsBelow id ∧
        ∀ (key : String) (bucket : Bucket),
          cell.tally.buckets[key]? = some bucket ↔ before.BucketBelow id key bucket
  /-- Every other remaining cell is as it was. -/
  unchanged : ∀ id ∈ after.cells,
    ¬ (before.isSplit id = true ∧ before.clientsBelow id < mergeThreshold) →
      after.cells[id]? = before.cells[id]? ∧ (id ∈ after.active ↔ id ∈ before.active)
  nodup_merged : merged.Nodup
  mem_merged_iff : ∀ id : CellId, id ∈ merged ↔
    before.isSplit id = true ∧ before.clientsBelow id < mergeThreshold

/-- Where a sweep came to every split cell, the cells that it did not merge are as they were. -/
theorem Underway.same_of_not_merged
    (underway : Underway topLevel maxLevel mergeThreshold before done sweeping)
    (all : ∀ id, id ∈ done ↔ before.isSplit id = true) (member : id ∈ sweeping.forest.cells)
    (notMerged : ¬ (before.isSplit id = true ∧ before.clientsBelow id < mergeThreshold)) :
    sweeping.forest.cells[id]? = before.cells[id]? := by
  refine underway.same id member fun isDone => ?_
  by_contra few
  exact notMerged ⟨(all id).mp isDone, by omega⟩

/-- Where a sweep came to every split cell, it made of the forest what it should. -/
theorem Underway.swept (wellFormed : before.WellFormed topLevel maxLevel)
    (underway : Underway topLevel maxLevel mergeThreshold before done sweeping)
    (ordered : done.Pairwise fun first second => first.contains second = false)
    (all : ∀ id, id ∈ done ↔ before.isSplit id = true) :
    Swept mergeThreshold before sweeping.forest sweeping.merged := by
  have now := underway.wellFormed
  have splitNow : ∀ id ∈ sweeping.forest.cells, sweeping.forest.isSplit id = true ↔
      before.isSplit id = true ∧ mergeThreshold ≤ before.clientsBelow id := by
    intro id member
    by_cases merged : before.isSplit id = true ∧ before.clientsBelow id < mergeThreshold
    · obtain ⟨cell, present⟩ := mem_cells_iff.mp member
      have isLeaf := underway.leaf id cell present ((all id).mpr merged.1) merged.2
      simp only [isSplit, present, isLeaf, Bool.not_true, Bool.false_eq_true, false_iff, not_and]
      intro _
      omega
    · have kept := underway.same_of_not_merged all member merged
      rw [isSplit, isSplit, kept]
      refine ⟨fun split => ⟨split, ?_⟩, And.left⟩
      by_contra few
      exact merged ⟨split, by omega⟩
  refine ⟨underway.tops, ?_, splitNow, ?_, ?_, ?_, ?_⟩
  · intro id
    rw [underway.mem_iff]
    refine and_congr_right fun member => ⟨fun kept outer outerMember different around => ?_,
      fun kept outer outerDone => ?_⟩
    · obtain ⟨outerCell, outerPresent⟩ := mem_cells_iff.mp outerMember
      obtain ⟨cell, present⟩ := mem_cells_iff.mp member
      obtain ⟨_, listed⟩ := wellFormed.shaped.child_toward outerPresent present around different
      refine kept outer ((all outer).mpr (Forest.isSplit_iff.mpr ⟨outerCell, outerPresent, ?_⟩))
        different around
      exact Cell.isLeaf_eq_false_of_mem listed
    · obtain ⟨outerCell, outerPresent, _⟩ := Forest.isSplit_iff.mp ((all outer).mp outerDone)
      exact kept outer (mem_cells_iff.mpr ⟨outerCell, outerPresent⟩)
  · intro id member split few
    obtain ⟨cell, present⟩ := mem_cells_iff.mp member
    have isLeaf := underway.leaf id cell present ((all id).mpr split) few
    refine ⟨(now.active id).mpr ⟨cell, present, isLeaf⟩, cell, present, Cell.isLeaf_iff.mp isLeaf,
      ?_, fun key bucket => ?_⟩
    · rw [← underway.clients id member, now.clientsBelow_leaf present isLeaf]
    · rw [← underway.buckets id member, now.bucketBelow_leaf_iff present isLeaf]
  · intro id member notMerged
    have kept := underway.same_of_not_merged all member notMerged
    exact ⟨kept, by rw [now.active, wellFormed.active, kept]⟩
  · rw [underway.merged]
    refine List.Nodup.filter _ (ordered.imp_of_mem fun {first second} member _ apart => ?_)
    rintro rfl
    obtain ⟨cell, present, _⟩ := Forest.isSplit_iff.mp ((all first).mp member)
    simp [CellId.contains_self (wellFormed.isCell present)] at apart
  · intro id
    rw [underway.merged, List.mem_filter, all]
    simp

/-- Around every cell there is a top cell. -/
theorem WellFormed.exists_top_around (wellFormed : before.WellFormed topLevel maxLevel)
    {cell : Cell} (present : before.cells[id]? = some cell) :
    ∃ top ∈ before.topCells, top.contains id = true := by
  have level := (wellFormed.levels present).1
  obtain ⟨top, topPresent⟩ := wellFormed.shaped.exists_ancestor present level (Nat.le_refl topLevel)
  refine ⟨id.ancestor topLevel, ?_, CellId.contains_ancestor (wellFormed.isCell present) level⟩
  rw [mem_topCells, wellFormed.tops]
  exact ⟨mem_cells_iff.mpr ⟨top, topPresent⟩,
    CellId.level_ancestor id (Nat.le_trans level id.level_le_finest)⟩

/-- A sweep comes to every split cell of a well-formed forest. -/
theorem WellFormed.through (wellFormed : before.WellFormed topLevel maxLevel)
    (mergeThreshold : Nat) : ∃ done, Underway topLevel maxLevel mergeThreshold before done
      (before.topCells.foldl (Forest.mergeBelow mergeThreshold) ⟨before, []⟩) ∧
        (done.Pairwise fun first second => first.contains second = false) ∧
          ∀ id, id ∈ done ↔ before.isSplit id = true := by
  obtain ⟨done, through⟩ := (through_start wellFormed mergeThreshold).foldl_mergeBelow wellFormed
    before.topCells (fun id member => mem_topCells.mp (by simpa using member)) before.nodup_topCells
  refine ⟨done, through.underway, through.ordered, fun id => ?_⟩
  rw [through.mem_iff]
  refine and_iff_left_of_imp fun split => ?_
  obtain ⟨cell, present, _⟩ := Forest.isSplit_iff.mp split
  exact wellFormed.exists_top_around present

namespace WellFormed

variable {forest : Forest} (wellFormed : forest.WellFormed topLevel maxLevel)

include wellFormed

theorem swept_mergeSweep (mergeThreshold : Nat) : Swept mergeThreshold forest
    (forest.mergeSweep mergeThreshold).1 (forest.mergeSweep mergeThreshold).2 := by
  obtain ⟨done, underway, ordered, all⟩ := wellFormed.through mergeThreshold
  exact underway.swept wellFormed ordered all

/-- A sweep changes the clients below no cell that remains. -/
theorem clientsBelow_mergeSweep {mergeThreshold : Nat}
    (remains : id ∈ (forest.mergeSweep mergeThreshold).1.cells) :
    (forest.mergeSweep mergeThreshold).1.clientsBelow id = forest.clientsBelow id := by
  obtain ⟨done, underway, _⟩ := wellFormed.through mergeThreshold
  exact underway.clients id remains

theorem wellFormed_mergeSweep (mergeThreshold : Nat) :
    (forest.mergeSweep mergeThreshold).1.WellFormed topLevel maxLevel := by
  obtain ⟨done, underway, _⟩ := wellFormed.through mergeThreshold
  exact underway.wellFormed

/-- Nothing that a sweep leaves behind can be merged. -/
theorem merge?_mergeSweep {mergeThreshold : Nat}
    (split : (forest.mergeSweep mergeThreshold).1.isSplit id = true) :
    (forest.mergeSweep mergeThreshold).1.merge? id mergeThreshold = none := by
  obtain ⟨done, underway, ordered, all⟩ := wellFormed.through mergeThreshold
  have swept := underway.swept wellFormed ordered all
  rw [Option.eq_none_iff_forall_ne_some]
  intro after merged
  obtain ⟨cell, leaves, present, areLeaves, few, _⟩ := merge?_eq_some_iff.mp merged
  have notLeaf : cell.isLeaf = false := by simpa [isSplit, present] using split
  have total := underway.wellFormed.sum_leaves present areLeaves notLeaf
  have member := mem_cells_iff.mpr ⟨cell, present⟩
  have enough := ((swept.isSplit_iff id member).mp split).2
  have clients := underway.clients id member
  omega

end WellFormed

/-- A sweep that merged nothing so far changed nothing so far. -/
def Idle (forest : Forest) (sweeping : Sweeping) : Prop :=
  sweeping.merged = [] → sweeping.forest = forest

theorem Idle.mergeCell {forest : Forest} (idle : Idle forest sweeping) (id : CellId) :
    Idle forest (mergeCell mergeThreshold sweeping id) := by
  cases merged : sweeping.forest.merge? id mergeThreshold with
  | none => simpa [Forest.mergeCell, merged] using idle
  | some after => simp [Idle, Forest.mergeCell, merged]

theorem mergeSweep_fst_of_snd_eq_nil {forest : Forest}
    (idle : (forest.mergeSweep mergeThreshold).2 = []) :
    (forest.mergeSweep mergeThreshold).1 = forest := by
  refine List.foldlRecOn (motive := Idle forest) forest.topCells (mergeBelow mergeThreshold)
    (b := ⟨forest, []⟩) (fun _ => rfl) (fun sweeping earlier top _ => ?_) idle
  exact List.foldlRecOn (motive := Idle forest) _ (mergeCell mergeThreshold) earlier
    fun sweeping earlier id _ => earlier.mergeCell id

/-- A second sweep finds nothing to merge. -/
theorem WellFormed.mergeSweep_mergeSweep {forest : Forest}
    (wellFormed : forest.WellFormed topLevel maxLevel) (mergeThreshold : Nat) :
    (forest.mergeSweep mergeThreshold).1.mergeSweep mergeThreshold =
      ((forest.mergeSweep mergeThreshold).1, []) := by
  obtain ⟨done, underway, ordered, all⟩ := wellFormed.through mergeThreshold
  have first := underway.swept wellFormed ordered all
  have second := underway.wellFormed.swept_mergeSweep mergeThreshold
  have idle : ((forest.mergeSweep mergeThreshold).1.mergeSweep mergeThreshold).2 = [] := by
    rw [List.eq_nil_iff_forall_not_mem]
    intro id member
    obtain ⟨split, few⟩ := (second.mem_merged_iff id).mp member
    obtain ⟨cell, present, _⟩ := Forest.isSplit_iff.mp split
    have remains := mem_cells_iff.mpr ⟨cell, present⟩
    have enough := ((first.isSplit_iff id remains).mp split).2
    have clients := underway.clients id remains
    omega
  exact Prod.ext (mergeSweep_fst_of_snd_eq_nil idle) idle

/-- There is only one forest that a sweep can make of another one. -/
theorem Swept.unique {first second : Forest} {firstMerged secondMerged : List CellId}
    (firstSwept : Swept mergeThreshold before first firstMerged)
    (secondSwept : Swept mergeThreshold before second secondMerged)
    (firstWellFormed : first.WellFormed topLevel maxLevel)
    (secondWellFormed : second.WellFormed topLevel maxLevel) : first = second := by
  have there (id : CellId) : id ∈ first.cells ↔ id ∈ second.cells := by
    rw [firstSwept.remains_iff, secondSwept.remains_iff]
  have lookup (id : CellId) : first.cells[id]? = second.cells[id]? := by
    by_cases inFirst : id ∈ first.cells
    · have inSecond := (there id).mp inFirst
      by_cases merged : before.isSplit id = true ∧ before.clientsBelow id < mergeThreshold
      · obtain ⟨_, ⟨firstTally, _⟩, firstPresent, rfl, firstCount, firstBuckets⟩ :=
          firstSwept.collapsed id inFirst merged.1 merged.2
        obtain ⟨_, ⟨secondTally, _⟩, secondPresent, rfl, secondCount, secondBuckets⟩ :=
          secondSwept.collapsed id inSecond merged.1 merged.2
        have total : firstTally.total = secondTally.total := firstCount.trans secondCount.symm
        have buckets : firstTally.buckets = secondTally.buckets :=
          Std.ExtTreeMap.ext_getElem? fun key => Option.ext fun bucket =>
            (firstBuckets key bucket).trans (secondBuckets key bucket).symm
        have same : firstTally = secondTally := by
          cases firstTally
          cases secondTally
          simp_all
        rw [firstPresent, secondPresent, same]
      · rw [(firstSwept.unchanged id inFirst merged).1,
          (secondSwept.unchanged id inSecond merged).1]
    · have notInSecond : id ∉ second.cells := fun member => inFirst ((there id).mpr member)
      rw [Std.ExtTreeMap.getElem?_eq_none inFirst, Std.ExtTreeMap.getElem?_eq_none notInSecond]
  have cells : first.cells = second.cells := Std.ExtTreeMap.ext_getElem? lookup
  have active : first.active = second.active := Std.ExtTreeSet.ext_mem fun id => by
    rw [firstWellFormed.active, secondWellFormed.active, cells]
  have tops : first.tops = second.tops := firstSwept.tops.trans secondSwept.tops.symm
  cases first
  cases second
  simp_all

end Forest

end LoadAtlas
