import LoadAtlas.Proofs.Forest.Strict

/-!
# Cascades as subdivisions

A cascade works off a list, level by level.  What it makes of the leaf from which it starts can
be told without any list: a cell with few enough clients, or at the deepest level, holds its
buckets; any other cell is split into the children that its buckets fall into, and each of them
is subdivided with the buckets that fall into it.  The cascade puts this tree of cells in the
place of the leaf, splits as many cells as the tree has branches, and touches no other cell.

This holds of any table of buckets that fall into the leaf, however its keys look.
-/

namespace LoadAtlas

/-- The leaf that holds some buckets. -/
def Cell.holding (buckets : BucketTable) : Cell where
  tally := ⟨buckets.sum, buckets⟩

namespace Forest

/-- The cells that a cell with some buckets is subdivided into, from the top down. -/
def subdivision (splitThreshold : Nat) :
    (levels : Nat) → CellId → BucketTable → List (CellId × Cell)
  | 0, id, buckets => [(id, .holding buckets)]
  | levels + 1, id, buckets =>
      if buckets.sum ≤ splitThreshold then [(id, .holding buckets)]
      else
        let children := buckets.childrenIn id
        (id, { children }) :: children.flatMap fun child =>
          subdivision splitThreshold levels child (buckets.within child)

/-- The forest with a tree of cells in the place of a leaf. -/
def replant (forest : Forest) (id : CellId) (tree : List (CellId × Cell)) : Forest where
  tops := forest.tops
  cells := (forest.cells.erase id).insertMany tree
  active := (forest.active.erase id).insertMany
    ((tree.filter fun entry => entry.2.isLeaf).map Prod.fst)

variable {topLevel maxLevel splitThreshold levels splits : Nat} {before after forest : Forest}
  {id node other child : CellId} {buckets : BucketTable} {cell : Cell}

theorem groupLeaf_eq_holding (buckets : BucketTable) : groupLeaf buckets = .holding buckets := by
  rw [groupLeaf, Tally.ofTable_eq, Cell.holding]

@[simp]
theorem isLeaf_holding (buckets : BucketTable) : (Cell.holding buckets).isLeaf = true :=
  rfl

@[simp]
theorem clientCount_holding (buckets : BucketTable) :
    (Cell.holding buckets).clientCount = buckets.sum :=
  rfl

@[simp]
theorem buckets_holding (buckets : BucketTable) : (Cell.holding buckets).tally.buckets = buckets :=
  rfl

theorem isLeaf_childrenIn (nonempty : 0 < buckets.sum) (id : CellId) :
    ({ children := buckets.childrenIn id } : Cell).isLeaf = false := by
  rw [Cell.isLeaf_eq_false_iff, ← BucketTable.keys_groupByChild]
  exact BucketTable.keys_groupByChild_ne_nil nonempty id

/-- A cell is split unless it has few enough clients or the deepest level. -/
theorem subdivision_eq_ite (bounded : maxLevel ≤ CellId.finestLevel) (id : CellId)
    (buckets : BucketTable) : subdivision splitThreshold (maxLevel - id.level) id buckets =
      if buckets.sum ≤ splitThreshold ∨ maxLevel ≤ id.level then [(id, .holding buckets)]
      else (id, { children := buckets.childrenIn id }) ::
        (buckets.childrenIn id).flatMap fun child =>
          subdivision splitThreshold (maxLevel - child.level) child (buckets.within child) := by
  cases left : maxLevel - id.level with
  | zero => rw [if_pos (.inr (Nat.sub_eq_zero_iff_le.mp left)), subdivision]
  | succ levels =>
      by_cases few : buckets.sum ≤ splitThreshold
      · rw [if_pos (.inl few), subdivision, if_pos few]
      · rw [if_neg (by omega), subdivision, if_neg few]
        refine congrArg (List.cons _) (List.flatMap_congr fun child listed => ?_)
        obtain ⟨_, bucket, _, rfl⟩ := BucketTable.mem_childrenIn_iff.mp listed
        rw [bucket.location.level_childAt (by omega),
          show maxLevel - (id.level + 1) = levels by omega]

/-! ## In the course of a cascade -/

/-- What a cascade has made of a leaf so far.  Every cell inside the leaf holds the buckets that
fall into it, or was split into the children that these fall into, as it had to be. -/
structure Dividing (topLevel maxLevel splitThreshold : Nat) (before : Forest) (id : CellId)
    (buckets : BucketTable) (after : Forest) (splits : Nat) : Prop where
  shaped : after.Shaped topLevel maxLevel
  tops : after.tops = before.tops
  outside : ∀ other : CellId, id.contains other = false →
    after.cells[other]? = before.cells[other]?
  root : id ∈ after.cells
  inside : ∀ (other : CellId) (cell : Cell), id.contains other = true →
    after.cells[other]? = some cell → cell = .holding (buckets.within other) ∨
      cell = { children := (buckets.within other).childrenIn other } ∧
        splitThreshold < (buckets.within other).sum ∧ other.level < maxLevel
  splits : after.branches.length = before.branches.length + splits

/-- A leaf holds the buckets that fall into it. -/
theorem Dividing.holding (dividing : Dividing topLevel maxLevel splitThreshold before id buckets
      after splits) (inside : id.contains other = true)
    (present : after.cells[other]? = some cell) (isLeaf : cell.isLeaf = true) :
    cell = .holding (buckets.within other) := by
  rcases dividing.inside other cell inside present with holds | ⟨rfl, full, _⟩
  · exact holds
  · rw [isLeaf_childrenIn (Nat.zero_lt_of_lt full)] at isLeaf
    exact absurd isLeaf Bool.false_ne_true

/-- The children that a leaf inside the leaf would be split into are new. -/
theorem Dividing.child_new (dividing : Dividing topLevel maxLevel splitThreshold before id buckets
      after splits) (bounded : maxLevel ≤ CellId.finestLevel) (inside : id.contains node = true)
    (present : after.cells[node]? = some cell) (isLeaf : cell.isLeaf = true)
    (room : node.level < maxLevel) (member : child ∈ cell.tally.buckets.groupByChild node) :
    id.contains child = true ∧ after.cells[child]? = none := by
  obtain rfl := dividing.holding inside present isLeaf
  obtain ⟨isCell, _, below, absent⟩ := dividing.shaped.child_of_group present isLeaf
    (buckets.placedIn_within node) room bounded member
  obtain ⟨_, rootPresent⟩ := mem_cells_iff.mp dividing.root
  exact ⟨CellId.contains_trans (dividing.shaped.isCell rootPresent)
    (dividing.shaped.isCell present) isCell inside below, absent⟩

/-- The split of a cell inside the leaf goes on with the subdivision. -/
theorem Dividing.split (dividing : Dividing topLevel maxLevel splitThreshold before id buckets
      after splits) (bounded : maxLevel ≤ CellId.finestLevel) (inside : id.contains node = true)
    (present : after.cells[node]? = some cell) (isLeaf : cell.isLeaf = true)
    (full : splitThreshold < cell.clientCount) (room : node.level < maxLevel) :
    Dividing topLevel maxLevel splitThreshold before id buckets (after.split node cell)
      (splits + 1) := by
  obtain rfl := dividing.holding inside present isLeaf
  have shaped := dividing.shaped
  have placed := buckets.placedIn_within node
  have nonempty : 0 < (buckets.within node).sum := Nat.zero_lt_of_lt full
  have finite : node.level < CellId.finestLevel := Nat.lt_of_lt_of_le room bounded
  have grown := shaped.grown_split present isLeaf placed room bounded
  refine ⟨shaped.split present isLeaf placed room bounded nonempty, ?_, ?_, ?_, ?_, ?_⟩
  · exact grown.tops.trans dividing.tops
  · intro other apart
    have notNode : other ≠ node := by
      rintro rfl
      simp [inside] at apart
    have notFresh : other ∉ ((buckets.within node).groupByChild node).keys := by
      intro member
      have fresh := dividing.child_new bounded inside present isLeaf room
        (Std.ExtTreeMap.mem_keys.mp member)
      simp [fresh.1] at apart
    exact (grown.others other notNode notFresh).trans (dividing.outside other apart)
  · exact grown.mem_cells dividing.root
  · intro other found around later
    -- The cell is the one that was split, one of its children or an old one.
    rcases origin_split later with ⟨rfl, rfl⟩ | ⟨table, held, rfl⟩ | ⟨_, earlier⟩
    · exact .inr ⟨by rw [buckets_holding, BucketTable.keys_groupByChild], full, room⟩
    · have member : other ∈ (buckets.within node).groupByChild node :=
        Std.ExtTreeMap.mem_iff_isSome_getElem?.mpr (Option.isSome_of_eq_some held)
      have below := (shaped.child_of_group present isLeaf placed room bounded member).2.2.1
      rw [groupLeaf_eq_holding, BucketTable.eq_within_of_groupByChild finite held, buckets_holding,
        BucketTable.within_within (shaped.isCell present) below]
      exact .inl rfl
    · exact dividing.inside other found around earlier
  · rw [shaped.length_branches_split present isLeaf placed room bounded nonempty, dividing.splits,
      Nat.add_assoc]

theorem cascading_dividing (bounded : maxLevel ≤ CellId.finestLevel) (before : Forest)
    (id : CellId) (buckets : BucketTable) :
    Cascading splitThreshold maxLevel
      (Dividing topLevel maxLevel splitThreshold before id buckets)
      fun other => id.contains other = true where
  split dividing inside present isLeaf full room :=
    ⟨dividing.split bounded inside present isLeaf full room,
      fun _ member => (dividing.child_new bounded inside present isLeaf room member).1⟩

/-! ## At the end of a cascade -/

/-- A leaf is all there is at and below it. -/
theorem Shaped.mem_singleton_leaf_iff (shaped : forest.Shaped topLevel maxLevel) {leaf : Cell}
    (present : forest.cells[node]? = some leaf) (isLeaf : leaf.isLeaf = true) :
    (other, cell) ∈ [(node, leaf)] ↔
      node.contains other = true ∧ forest.cells[other]? = some cell := by
  rw [List.mem_singleton, Prod.mk.injEq]
  constructor
  · rintro ⟨rfl, rfl⟩
    exact ⟨CellId.contains_self (shaped.isCell present), present⟩
  · rintro ⟨below, found⟩
    obtain rfl := shaped.eq_of_leaf_contains present isLeaf found below
    exact ⟨rfl, Option.some.inj (found.symm.trans present)⟩

namespace Dividing

variable (dividing : Dividing topLevel maxLevel splitThreshold before id buckets after splits)
  (ended : ∀ other, id.contains other = true → ¬ after.Overfull splitThreshold maxLevel other)

include dividing

theorem isCell_id : id.IsCell := by
  obtain ⟨_, present⟩ := mem_cells_iff.mp dividing.root
  exact dividing.shaped.isCell present

theorem contains_of_mem_children (inside : id.contains node = true)
    (present : after.cells[node]? = some cell) (member : child ∈ cell.children) :
    child ∈ after.cells ∧ child.level = node.level + 1 ∧ node.contains child = true ∧
      id.contains child = true := by
  obtain ⟨there, level, below⟩ := dividing.shaped.child present member
  obtain ⟨_, childPresent⟩ := mem_cells_iff.mp there
  exact ⟨there, level, below, CellId.contains_trans dividing.isCell_id
    (dividing.shaped.isCell present) (dividing.shaped.isCell childPresent) inside below⟩

include ended

/-- What a cell is in the end. -/
theorem getElem?_of_ended (inside : id.contains node = true) (there : node ∈ after.cells) :
    after.cells[node]? = some
      (if (buckets.within node).sum ≤ splitThreshold ∨ maxLevel ≤ node.level
        then .holding (buckets.within node)
        else { children := (buckets.within node).childrenIn node }) := by
  obtain ⟨cell, present⟩ := mem_cells_iff.mp there
  rw [present]
  rcases dividing.inside node cell inside present with rfl | ⟨rfl, full, room⟩
  · rw [if_pos]
    by_contra due
    rw [not_or, Nat.not_le, Nat.not_le] at due
    exact ended node inside ⟨_, present, isLeaf_holding _, due.1, due.2⟩
  · rw [if_neg]
    omega

/-- The cells at and below a cell are those of its subdivision. -/
theorem mem_subdivision_iff (reach : node.level + levels = maxLevel)
    (inside : id.contains node = true) (there : node ∈ after.cells) :
    (other, cell) ∈ subdivision splitThreshold levels node (buckets.within node) ↔
      node.contains other = true ∧ after.cells[other]? = some cell := by
  have shaped := dividing.shaped
  induction levels generalizing node with
  | zero =>
      have content := dividing.getElem?_of_ended ended inside there
      rw [if_pos (.inr (by omega))] at content
      exact shaped.mem_singleton_leaf_iff content (isLeaf_holding _)
  | succ levels induction =>
      have content := dividing.getElem?_of_ended ended inside there
      have isCell := shaped.isCell content
      by_cases few : (buckets.within node).sum ≤ splitThreshold
      · rw [if_pos (.inl few)] at content
        rw [subdivision, if_pos few]
        exact shaped.mem_singleton_leaf_iff content (isLeaf_holding _)
      · rw [if_neg (by omega)] at content
        rw [subdivision, if_neg few, List.mem_cons, Prod.mk.injEq, List.mem_flatMap]
        have deeper (child : CellId) (listed : child ∈ (buckets.within node).childrenIn node) :
            (other, cell) ∈ subdivision splitThreshold levels child
                ((buckets.within node).within child) ↔
              child.contains other = true ∧ after.cells[other]? = some cell := by
          obtain ⟨childThere, level, below, around⟩ :=
            dividing.contains_of_mem_children inside content listed
          rw [BucketTable.within_within isCell below]
          exact induction (by omega) around childThere
        constructor
        · rintro (⟨rfl, rfl⟩ | ⟨child, listed, member⟩)
          · exact ⟨CellId.contains_self isCell, content⟩
          · obtain ⟨inChild, present⟩ := (deeper child listed).mp member
            obtain ⟨childThere, _, below, _⟩ :=
              dividing.contains_of_mem_children inside content listed
            obtain ⟨_, childPresent⟩ := mem_cells_iff.mp childThere
            exact ⟨CellId.contains_trans isCell (shaped.isCell childPresent)
              (shaped.isCell present) below inChild, present⟩
        · rintro ⟨below, present⟩
          by_cases same : node = other
          · subst same
            exact .inl ⟨rfl, Option.some.inj (present.symm.trans content)⟩
          · -- Below a split cell the way leads through the child that contains the other cell.
            obtain ⟨further, listed⟩ := shaped.child_toward content present below same
            have inChild := CellId.contains_ancestor (shaped.isCell present) further
            exact .inr ⟨_, listed, (deeper _ listed).mpr ⟨inChild, present⟩⟩

theorem nodup_subdivision (reach : node.level + levels = maxLevel)
    (inside : id.contains node = true) (there : node ∈ after.cells) :
    ((subdivision splitThreshold levels node (buckets.within node)).map Prod.fst).Nodup := by
  have shaped := dividing.shaped
  induction levels generalizing node with
  | zero => exact List.nodup_singleton node
  | succ levels induction =>
      have content := dividing.getElem?_of_ended ended inside there
      have isCell := shaped.isCell content
      by_cases few : (buckets.within node).sum ≤ splitThreshold
      · rw [subdivision, if_pos few]
        exact List.nodup_singleton node
      · rw [if_neg (by omega)] at content
        rw [subdivision, if_neg few, List.map_cons, List.map_flatMap, List.nodup_cons,
          List.nodup_flatMap]
        have deeper (child : CellId) (listed : child ∈ (buckets.within node).childrenIn node) :
            ((subdivision splitThreshold levels child
                ((buckets.within node).within child)).map Prod.fst).Nodup ∧
              child.IsCell ∧ child.level = node.level + 1 ∧
              ∀ other ∈ (subdivision splitThreshold levels child
                ((buckets.within node).within child)).map Prod.fst,
                  child.contains other = true ∧ other.IsCell := by
          obtain ⟨childThere, level, below, around⟩ :=
            dividing.contains_of_mem_children inside content listed
          obtain ⟨_, childPresent⟩ := mem_cells_iff.mp childThere
          rw [BucketTable.within_within isCell below]
          refine ⟨induction (by omega) around childThere, shaped.isCell childPresent, level, ?_⟩
          intro other member
          obtain ⟨⟨_, found⟩, entry, rfl⟩ := List.mem_map.mp member
          obtain ⟨inChild, present⟩ :=
            (dividing.mem_subdivision_iff ended (by omega) around childThere).mp entry
          exact ⟨inChild, shaped.isCell present⟩
        refine ⟨?_, fun child listed => (deeper child listed).1, ?_⟩
        · intro member
          obtain ⟨child, listed, inTree⟩ := List.mem_flatMap.mp member
          obtain ⟨_, childIsCell, level, contained⟩ := deeper child listed
          have coarser := CellId.level_le_of_contains childIsCell isCell (contained node inTree).1
          omega
        · -- Subdivisions of different children share no cell, as the children share no ground.
          refine (buckets.within node).nodup_childrenIn node |>.imp_of_mem ?_
          intro first second firstListed secondListed different other inFirst inSecond
          obtain ⟨_, firstIsCell, firstLevel, firstContains⟩ := deeper first firstListed
          obtain ⟨_, secondIsCell, secondLevel, secondContains⟩ := deeper second secondListed
          obtain ⟨inFirst, isCell⟩ := firstContains other inFirst
          exact different (CellId.eq_of_common firstIsCell secondIsCell isCell inFirst
            (secondContains other inSecond).1 (by omega))

end Dividing

/-! ## A tree in the place of a leaf -/

/-- A list of the cells of a forest inside one cell, each of them once. -/
structure Lists (forest : Forest) (id : CellId) (tree : List (CellId × Cell)) : Prop where
  distinct : (tree.map Prod.fst).Nodup
  mem_iff : ∀ (other : CellId) (cell : Cell),
    (other, cell) ∈ tree ↔ id.contains other = true ∧ forest.cells[other]? = some cell

theorem Dividing.lists
    (dividing : Dividing topLevel maxLevel splitThreshold before id buckets after splits)
    (ended : ∀ other, id.contains other = true → ¬ after.Overfull splitThreshold maxLevel other)
    (placed : buckets.PlacedIn id) (reach : id.level + levels = maxLevel) :
    Lists after id (subdivision splitThreshold levels id buckets) := by
  have self := CellId.contains_self dividing.isCell_id
  rw [← BucketTable.within_eq_self placed]
  exact ⟨dividing.nodup_subdivision ended reach self dividing.root,
    fun _ _ => dividing.mem_subdivision_iff ended reach self dividing.root⟩

/-- The split cells of a list. -/
theorem Lists.mem_branches_iff {tree : List (CellId × Cell)} (lists : Lists forest id tree) :
    other ∈ (tree.filter fun entry => !entry.2.isLeaf).map Prod.fst ↔
      id.contains other = true ∧ forest.isSplit other = true := by
  constructor
  · intro member
    obtain ⟨⟨_, cell⟩, kept, rfl⟩ := List.mem_map.mp member
    obtain ⟨entry, split⟩ := List.mem_filter.mp kept
    obtain ⟨around, found⟩ := (lists.mem_iff _ _).mp entry
    exact ⟨around, isSplit_iff.mpr ⟨cell, found, by simpa using split⟩⟩
  · rintro ⟨around, split⟩
    obtain ⟨cell, found, hasChildren⟩ := isSplit_iff.mp split
    have entry := (lists.mem_iff other cell).mpr ⟨around, found⟩
    exact List.mem_map.mpr
      ⟨(other, cell), List.mem_filter.mpr ⟨entry, by simpa using hasChildren⟩, rfl⟩

section Replant

variable {tree : List (CellId × Cell)}

theorem getElem?_replant_of_mem (distinct : (tree.map Prod.fst).Nodup)
    (member : (other, cell) ∈ tree) : (forest.replant id tree).cells[other]? = some cell := by
  apply Std.ExtTreeMap.getElem?_insertMany_list_of_mem Std.ReflCmp.compare_self _ member
  exact (List.pairwise_map.mp distinct).imp fun different same =>
    different (Std.LawfulEqOrd.eq_of_compare same)

theorem getElem?_replant_of_not_mem (apart : other ∉ tree.map Prod.fst) (different : other ≠ id) :
    (forest.replant id tree).cells[other]? = forest.cells[other]? := by
  rw [replant, Std.ExtTreeMap.getElem?_insertMany_list_of_contains_eq_false (by simpa using apart),
    Std.ExtTreeMap.getElem?_erase, if_neg (by simpa using different.symm)]

theorem mem_active_replant_iff : other ∈ (forest.replant id tree).active ↔
    (∃ leaf : Cell, (other, leaf) ∈ tree ∧ leaf.isLeaf = true) ∨
      other ≠ id ∧ other ∈ forest.active := by
  rw [replant, Std.ExtTreeSet.mem_insertMany_list, Std.ExtTreeSet.mem_erase, or_comm,
    List.contains_iff_mem]
  simp only [List.mem_map, List.mem_filter, Prod.exists, exists_and_right, exists_eq_right, ne_eq,
    Std.LawfulEqOrd.compare_eq_iff_eq, eq_comm (a := id)]

end Replant

/-- A cascade put a tree of cells in the place of a leaf.  No cell stands in the tree twice, all
of them lie inside the leaf, and what lies outside stays as it was. -/
structure Subdivided (before : Forest) (id : CellId) (tree : List (CellId × Cell))
    (after : Forest) (splits : Nat) : Prop where
  planted : after = before.replant id tree
  splits : splits = tree.countP fun entry => !entry.2.isLeaf
  distinct : (tree.map Prod.fst).Nodup
  inside : ∀ entry ∈ tree, id.contains entry.1 = true
  tops : after.tops = before.tops
  outside : ∀ other : CellId, id.contains other = false →
    after.cells[other]? = before.cells[other]? ∧ after.isActive other = before.isActive other

section Ended

variable {leaf : Cell} {tree : List (CellId × Cell)}
  (shaped : before.Shaped topLevel maxLevel) (present : before.cells[id]? = some leaf)
  (isLeaf : leaf.isLeaf = true)

include shaped present isLeaf

/-- Before the cascade the leaf was all there was inside it. -/
theorem Shaped.absent_inside_leaf (inside : id.contains other = true) (different : other ≠ id) :
    before.cells[other]? = none := by
  rw [Option.eq_none_iff_forall_ne_some]
  exact fun cell found =>
    different (shaped.eq_of_leaf_contains present isLeaf found inside).symm

variable (dividing : Dividing topLevel maxLevel splitThreshold before id buckets after splits)
  (lists : Lists after id tree)

omit present isLeaf in
include dividing in
theorem Dividing.mem_active_iff (apart : id.contains other = false) :
    other ∈ after.active ↔ other ∈ before.active := by
  rw [dividing.shaped.active, shaped.active, dividing.outside other apart]

include dividing lists

theorem Dividing.cells_eq_replant : after.cells = (before.replant id tree).cells := by
  ext1 other
  by_cases member : other ∈ tree.map Prod.fst
  · obtain ⟨⟨_, cell⟩, entry, rfl⟩ := List.mem_map.mp member
    rw [getElem?_replant_of_mem lists.distinct entry]
    exact ((lists.mem_iff _ _).mp entry).2
  · have notListed (cell : Cell) : (other, cell) ∉ tree := fun entry =>
      member (List.mem_map_of_mem entry)
    have self := CellId.contains_self dividing.isCell_id
    obtain ⟨root, rootPresent⟩ := mem_cells_iff.mp dividing.root
    have different : other ≠ id := by
      rintro rfl
      exact notListed root ((lists.mem_iff _ _).mpr ⟨self, rootPresent⟩)
    rw [getElem?_replant_of_not_mem member different]
    cases around : id.contains other with
    | false => exact dividing.outside other around
    | true =>
        rw [shaped.absent_inside_leaf present isLeaf around different,
          Option.eq_none_iff_forall_ne_some]
        exact fun cell found => notListed cell ((lists.mem_iff _ _).mpr ⟨around, found⟩)

theorem Dividing.active_eq_replant : after.active = (before.replant id tree).active := by
  ext1 other
  rw [mem_active_replant_iff]
  cases around : id.contains other with
  | false =>
      have notListed (found : Cell) : (other, found) ∉ tree := fun entry => by
        simp [((lists.mem_iff _ _).mp entry).1] at around
      have different : other ≠ id := by
        rintro rfl
        simp [CellId.contains_self dividing.isCell_id] at around
      rw [dividing.mem_active_iff shaped around]
      simp [notListed, different]
  | true =>
      have notBefore : ¬ (other ≠ id ∧ other ∈ before.active) := by
        rintro ⟨different, active⟩
        obtain ⟨found, foundPresent, _⟩ := (shaped.active other).mp active
        simp [shaped.absent_inside_leaf present isLeaf around different] at foundPresent
      rw [dividing.shaped.active, or_iff_left notBefore]
      simp only [lists.mem_iff, around, true_and]

/-- The branches afterwards are those from before and those of the tree. -/
theorem Dividing.splits_eq_countP : splits = tree.countP fun entry => !entry.2.isLeaf := by
  let fresh := (tree.filter fun entry => !entry.2.isLeaf).map Prod.fst
  have notSplit (other : CellId) (around : id.contains other = true) :
      before.isSplit other = false := by
    by_cases same : other = id
    · rw [same, isSplit, present]
      simp [isLeaf]
    · rw [isSplit, shaped.absent_inside_leaf present isLeaf around same]
  have perm : after.branches.Perm (before.branches ++ fresh) := by
    apply branches_perm
    · refine List.nodup_append.mpr
        ⟨before.nodup_branches, lists.distinct.sublist (List.filter_sublist.map _), ?_⟩
      rintro other isBranch _ isFresh rfl
      have around := (lists.mem_branches_iff.mp isFresh).1
      simp [mem_branches_iff, notSplit other around] at isBranch
    · intro other
      rw [List.mem_append, mem_branches_iff, lists.mem_branches_iff]
      cases around : id.contains other with
      | false => simp [isSplit, dividing.outside other around]
      | true => simp [notSplit other around]
  have lengths := perm.length_eq
  rw [dividing.splits, List.length_append, List.length_map] at lengths
  rw [List.countP_eq_length_filter]
  omega

theorem Dividing.subdivided : Subdivided before id tree after splits where
  planted := by
    have cells := dividing.cells_eq_replant shaped present isLeaf lists
    have active := dividing.active_eq_replant shaped present isLeaf lists
    calc
      after = ⟨after.tops, after.cells, after.active⟩ := rfl
      _ = before.replant id tree := by rw [dividing.tops, cells, active]; rfl
  splits := dividing.splits_eq_countP shaped present isLeaf lists
  distinct := lists.distinct
  inside entry member := ((lists.mem_iff _ _).mp member).1
  tops := dividing.tops
  outside other apart := by
    refine ⟨dividing.outside other apart, ?_⟩
    rw [Bool.eq_iff_iff]
    exact dividing.mem_active_iff shaped apart

end Ended

/-! ## Cascades -/

/-- A forest whose leaf was filled with buckets starts off undivided. -/
theorem Shaped.dividing_start (shaped : forest.Shaped topLevel maxLevel)
    (present : forest.cells[id]? = some (.holding buckets)) (placed : buckets.PlacedIn id) :
    Dividing topLevel maxLevel splitThreshold forest id buckets forest 0 where
  shaped := shaped
  tops := rfl
  outside _ _ := rfl
  root := mem_cells_iff.mpr ⟨_, present⟩
  inside other cell around found := by
    obtain rfl := shaped.eq_of_leaf_contains present (isLeaf_holding _) found around
    rw [BucketTable.within_eq_self placed]
    exact .inl (Option.some.inj (found.symm.trans present))
  splits := rfl

theorem splitLevels_of_idle (forest : Forest) (splits levels : Nat) :
    splitLevels splitThreshold maxLevel levels ⟨forest, [], splits⟩ = ⟨forest, [], splits⟩ := by
  induction levels with
  | zero => rfl
  | succ levels induction => exact induction

theorem Strict.splitLevels_of_idle (forest : Forest) (splits levels : Nat) :
    Strict.splitLevels splitThreshold maxLevel levels ⟨forest, [], splits⟩ =
      .ok ⟨forest, [], splits⟩ := by
  induction levels with
  | zero => rfl
  | succ levels induction => exact induction

theorem splitCascade_of_not_overfull (idle : ¬ forest.Overfull splitThreshold maxLevel id) :
    forest.splitCascade id splitThreshold maxLevel = (forest, 0) := by
  have skipped : splitCell splitThreshold maxLevel ⟨forest, [], 0⟩ id = ⟨forest, [], 0⟩ :=
    splitCell_of_not_overfull idle
  unfold splitCascade
  cases maxLevel - id.level with
  | zero => rfl
  | succ levels =>
      rw [splitLevels, List.foldl_cons, List.foldl_nil, skipped, splitLevels_of_idle]

theorem Strict.splitCascade_of_not_overfull
    (idle : ¬ forest.Overfull splitThreshold maxLevel id) :
    Strict.splitCascade forest id splitThreshold maxLevel = .ok (forest, 0) := by
  have skipped : Strict.splitCell splitThreshold maxLevel ⟨forest, [], 0⟩ id =
      .ok ⟨forest, [], 0⟩ := by
    unfold Strict.splitCell
    cases present : forest.cells[id]? with
    | none => rfl
    | some cell =>
        apply if_pos
        by_contra due
        exact idle ⟨cell, present, by grind, by grind, by grind⟩
  have worked : Strict.splitLevels splitThreshold maxLevel (maxLevel - id.level + 1)
      ⟨forest, [id], 0⟩ = .ok ⟨forest, [], 0⟩ := by
    simp only [Strict.splitLevels, List.foldlM_cons, List.foldlM_nil, skipped, Strict.ok_bind]
    exact Strict.splitLevels_of_idle forest 0 _
  rw [Strict.splitCascade, worked]
  rfl

/-- A cascade replaces a leaf by its subdivision, whatever buckets the leaf holds, and does
nothing to a cell that is not a leaf with too many clients. -/
theorem Shaped.splitCascade_subdivides (shaped : forest.Shaped topLevel maxLevel)
    (bounded : maxLevel ≤ CellId.finestLevel)
    (present : forest.cells[id]? = some (.holding buckets)) (placed : buckets.PlacedIn id)
    (splitThreshold : Nat) :
    (Strict.splitCascade forest id splitThreshold maxLevel =
        .ok (forest.splitCascade id splitThreshold maxLevel) ∧
      Subdivided forest id (subdivision splitThreshold (maxLevel - id.level) id buckets)
        (forest.splitCascade id splitThreshold maxLevel).1
        (forest.splitCascade id splitThreshold maxLevel).2) ∧
      ∀ (any : Forest) (other : CellId), ¬ any.Overfull splitThreshold maxLevel other →
        Strict.splitCascade any other splitThreshold maxLevel = .ok (any, 0) ∧
          any.splitCascade other splitThreshold maxLevel = (any, 0) := by
  have self := CellId.contains_self (shaped.isCell present)
  have start : Dividing topLevel maxLevel splitThreshold forest id buckets forest 0 :=
    shaped.dividing_start present placed
  have cascading : Cascading splitThreshold maxLevel
      (Dividing topLevel maxLevel splitThreshold forest id buckets) _ :=
    cascading_dividing bounded forest id buckets
  have new : Strict.ChildrenNew splitThreshold maxLevel
      (Dividing topLevel maxLevel splitThreshold forest id buckets)
      fun other => id.contains other = true :=
    fun dividing inside present isLeaf _ room _ member =>
      (dividing.child_new bounded inside present isLeaf room member).2
  have dividing := cascading.splitCascade start self
  have ended (other : CellId) (around : id.contains other = true) :
      ¬ (forest.splitCascade id splitThreshold maxLevel).1.Overfull splitThreshold maxLevel
        other := by
    intro overfull
    obtain ⟨⟨_, found, _⟩, different⟩ := overfull_of_splitCascade bounded overfull
    simp [shaped.absent_inside_leaf present (isLeaf_holding _) around different] at found
  have reach : id.level + (maxLevel - id.level) = maxLevel :=
    Nat.add_sub_cancel' (shaped.levels present).2
  have lists := dividing.lists ended placed reach
  exact ⟨⟨Strict.splitCascade_of_childrenNew cascading new bounded start self,
    dividing.subdivided shaped present (isLeaf_holding _) lists⟩,
    fun any other idle => ⟨Strict.splitCascade_of_not_overfull idle,
      splitCascade_of_not_overfull idle⟩⟩

/-- A place with two clients, and the face of the globe around it. -/
def crowdedPlace : Location :=
  ⟨2.35, 48.85⟩

def crowdedBuckets : BucketTable :=
  (∅ : BucketTable).insert "u09" ⟨crowdedPlace, 2⟩

def crowded : Forest :=
  (empty.withTop (crowdedPlace.cellAt 0)).setCell (crowdedPlace.cellAt 0) (.holding crowdedBuckets)

/-- The face is split into the one cell around the place. -/
theorem splitCascade_subdivides_crowded : crowded.Overfull 1 1 (crowdedPlace.cellAt 0) ∧
    Subdivided crowded (crowdedPlace.cellAt 0)
      (subdivision 1 (1 - (crowdedPlace.cellAt 0).level) (crowdedPlace.cellAt 0) crowdedBuckets)
      (crowded.splitCascade (crowdedPlace.cellAt 0) 1 1).1
      (crowded.splitCascade (crowdedPlace.cellAt 0) 1 1).2 := by
  have level := crowdedPlace.level_cellAt (Nat.zero_le CellId.finestLevel)
  have rooted := (wellFormed_empty 0 1).withTop rfl
    (crowdedPlace.isCell_cellAt (Nat.zero_le _)) level (Nat.zero_le 1)
  have top : (empty.withTop (crowdedPlace.cellAt 0)).cells[crowdedPlace.cellAt 0]? =
      some Cell.empty := by
    rw [getElem?_withTop, if_pos rfl]
  have shaped : crowded.Shaped 0 1 := rooted.shaped.reshape (sameShape_setCell top _)
  have present : crowded.cells[crowdedPlace.cellAt 0]? = some (.holding crowdedBuckets) := by
    rw [crowded, cells_setCell, Std.ExtTreeMap.getElem?_insert_self]
  have placed : crowdedBuckets.PlacedIn (crowdedPlace.cellAt 0) := by
    intro key bucket held
    rw [crowdedBuckets, Std.ExtTreeMap.getElem?_insert, Std.ExtTreeMap.getElem?_empty,
      Option.ite_none_right_eq_some] at held
    rw [← Option.some.inj held.2]
    exact crowdedPlace.fallsInto_cellAt (Nat.zero_le _)
  exact ⟨⟨_, present, isLeaf_holding _, by decide, by omega⟩,
    (shaped.splitCascade_subdivides (by decide) present placed 1).1.2⟩

end Forest

end LoadAtlas
