import LoadAtlas.Proofs.Cell.Lineage
import LoadAtlas.Proofs.Forest.Below
import LoadAtlas.Proofs.Forest.Branches
import LoadAtlas.Proofs.Forest.Descent

/-!
# A split top cell

The smallest forests in which there is something to merge, or something left to cover: a top
cell and some of its children, all of them leaves.  Around a place there are two of them, the
face of the place with all of its children and the face without the one around the place.
-/

namespace LoadAtlas

namespace Forest

variable {forest : Forest} {top other : CellId} {leaves : List (CellId × Cell)}

/-- The forest with some more leaves. -/
def insertLeaves (forest : Forest) (leaves : List (CellId × Cell)) : Forest :=
  leaves.foldl (fun forest leaf => forest.insertLeaf leaf.1 leaf.2) forest

theorem tops_insertLeaves (forest : Forest) (leaves : List (CellId × Cell)) :
    (forest.insertLeaves leaves).tops = forest.tops := by
  induction leaves generalizing forest with
  | nil => rfl
  | cons leaf leaves induction => exact induction (forest.insertLeaf leaf.1 leaf.2)

theorem mem_active_insertLeaves : other ∈ (forest.insertLeaves leaves).active ↔
    other ∈ leaves.map Prod.fst ∨ other ∈ forest.active := by
  induction leaves generalizing forest with
  | nil => simp [insertLeaves]
  | cons leaf leaves induction =>
      refine (@induction (forest.insertLeaf leaf.1 leaf.2)).trans ?_
      simp only [active_insertLeaf, Std.ExtTreeSet.mem_insert, Std.LawfulEqOrd.compare_eq_iff_eq,
        List.map_cons, List.mem_cons, eq_comm (a := leaf.1)]
      rw [or_left_comm, or_assoc]

theorem getElem?_insertLeaves_of_not_mem (apart : other ∉ leaves.map Prod.fst) :
    (forest.insertLeaves leaves).cells[other]? = forest.cells[other]? := by
  induction leaves generalizing forest with
  | nil => rfl
  | cons leaf leaves induction =>
      rw [List.map_cons, List.mem_cons, not_or] at apart
      refine (@induction (forest.insertLeaf leaf.1 leaf.2) apart.2).trans ?_
      rw [cells_insertLeaf, Std.ExtTreeMap.getElem?_insert, if_neg]
      simpa using Ne.symm apart.1

theorem getElem?_insertLeaves_of_mem (distinct : (leaves.map Prod.fst).Nodup)
    {leaf : CellId × Cell} (member : leaf ∈ leaves) :
    (forest.insertLeaves leaves).cells[leaf.1]? = some leaf.2 := by
  induction leaves generalizing forest with
  | nil => simp at member
  | cons first leaves induction =>
      rw [List.map_cons, List.nodup_cons] at distinct
      rcases List.mem_cons.mp member with rfl | later
      · refine (getElem?_insertLeaves_of_not_mem distinct.1).trans ?_
        rw [cells_insertLeaf, Std.ExtTreeMap.getElem?_insert_self]
      · exact induction distinct.2 later

/-- A top cell that was split into some leaves. -/
def splitInto (top : CellId) (leaves : List (CellId × Cell)) : Forest :=
  let root : Forest :=
    { tops := (∅ : CellSet).insert top
      cells := (∅ : Std.ExtTreeMap CellId Cell).insert top { children := leaves.map Prod.fst } }
  root.insertLeaves leaves

/-- Some leaves are children of a cell, each of them there once, and in order by themselves. -/
structure Parts (top : CellId) (leaves : List (CellId × Cell)) : Prop where
  nonempty : leaves ≠ []
  distinct : (leaves.map Prod.fst).Nodup
  listed : ∀ leaf ∈ leaves, leaf.1 ∈ top.children
  isLeaf : ∀ leaf ∈ leaves, leaf.2.isLeaf = true
  sound : ∀ leaf ∈ leaves, leaf.2.Sound leaf.1

namespace Parts

variable (parts : Parts top leaves) (isCell : top.IsCell) (room : top.level < CellId.finestLevel)

include parts

/-- A child that is not among the leaves yet makes one more. -/
theorem cons {child : CellId} {cell : Cell} (absent : child ∉ leaves.map Prod.fst)
    (listed : child ∈ top.children) (isLeaf : cell.isLeaf = true) (sound : cell.Sound child) :
    Parts top ((child, cell) :: leaves) where
  nonempty := List.cons_ne_nil _ _
  distinct := List.nodup_cons.mpr ⟨absent, parts.distinct⟩
  listed := List.forall_mem_cons.mpr ⟨listed, parts.listed⟩
  isLeaf := List.forall_mem_cons.mpr ⟨isLeaf, parts.isLeaf⟩
  sound := List.forall_mem_cons.mpr ⟨sound, parts.sound⟩

theorem getElem?_leaf {leaf : CellId × Cell} (member : leaf ∈ leaves) :
    (splitInto top leaves).cells[leaf.1]? = some leaf.2 :=
  getElem?_insertLeaves_of_mem parts.distinct member

theorem top_not_leaf : Cell.isLeaf { children := leaves.map Prod.fst } = false := by
  simpa [Cell.isLeaf] using parts.nonempty

theorem areLeaves :
    Leaves (splitInto top leaves) { children := leaves.map Prod.fst } leaves where
  names := rfl
  present _ member := parts.getElem?_leaf member
  isLeaf := parts.isLeaf

include isCell room

theorem inside {child : CellId} (member : child ∈ leaves.map Prod.fst) :
    child.IsCell ∧ child.level = top.level + 1 ∧ top.contains child = true := by
  obtain ⟨leaf, leafMember, rfl⟩ := List.mem_map.mp member
  exact (isCell.mem_children_iff room).mp (parts.listed leaf leafMember)

theorem top_not_mem : top ∉ leaves.map Prod.fst := by
  intro member
  have deeper := (parts.inside isCell room member).2.1
  omega

theorem getElem?_top :
    (splitInto top leaves).cells[top]? = some { children := leaves.map Prod.fst } := by
  refine (getElem?_insertLeaves_of_not_mem (parts.top_not_mem isCell room)).trans ?_
  exact Std.ExtTreeMap.getElem?_insert_self

theorem grown :
    Grown (empty.withTop top) (splitInto top leaves) top (leaves.map Prod.fst) := by
  refine ⟨tops_insertLeaves _ leaves, fun other => ?_, ⟨Cell.empty,
    { children := leaves.map Prod.fst }, ?_, parts.getElem?_top isCell room, rfl⟩,
    fun child member => ?_, fun child member => ?_, fun other different notLeaf => ?_⟩
  · refine mem_active_insertLeaves.trans (or_congr_right ?_)
    simp [withTop, empty, eq_comm (a := top)]
  · rw [getElem?_withTop, if_pos rfl]
  · have different : top ≠ child := fun same =>
      parts.top_not_mem isCell room (same ▸ member)
    rw [getElem?_withTop, if_neg different]
    rfl
  · obtain ⟨leaf, leafMember, rfl⟩ := List.mem_map.mp member
    exact ⟨leaf.2, parts.getElem?_leaf leafMember, parts.isLeaf leaf leafMember⟩
  · refine (getElem?_insertLeaves_of_not_mem notLeaf).trans ?_
    rw [getElem?_withTop, if_neg different.symm, Std.ExtTreeMap.getElem?_insert,
      if_neg (by simpa using different.symm)]
    rfl

theorem getElem?_of_not_mem (different : other ≠ top) (apart : other ∉ leaves.map Prod.fst) :
    (splitInto top leaves).cells[other]? = none := by
  rw [(parts.grown isCell room).others other different apart, getElem?_withTop,
    if_neg different.symm]
  simp [empty]

theorem isSplit_iff : (splitInto top leaves).isSplit other = true ↔ other = top := by
  rw [Forest.isSplit_iff]
  constructor
  · rintro ⟨cell, present, split⟩
    by_contra different
    by_cases member : other ∈ leaves.map Prod.fst
    · obtain ⟨leaf, leafMember, rfl⟩ := List.mem_map.mp member
      rw [parts.getElem?_leaf leafMember] at present
      have isLeaf := parts.isLeaf leaf leafMember
      rw [Option.some.inj present, split] at isLeaf
      exact Bool.noConfusion isLeaf
    · rw [parts.getElem?_of_not_mem isCell room different member] at present
      cases present
  · rintro rfl
    exact ⟨_, parts.getElem?_top isCell room, parts.top_not_leaf⟩

theorem wellFormed : (splitInto top leaves).WellFormed top.level (top.level + 1) := by
  have rooted : (empty.withTop top).WellFormed top.level (top.level + 1) :=
    (wellFormed_empty top.level (top.level + 1)).withTop rfl isCell rfl (Nat.le_succ _)
  refine rooted.grow (parts.grown isCell room) (by simpa using parts.nonempty) (Nat.lt_succ_self _)
    (fun child member => (parts.inside isCell room member).1)
    (fun child member => (parts.inside isCell room member).2) fun {other found} present where_ => ?_
  rcases where_ with rfl | member
  · rw [parts.getElem?_top isCell room] at present
    exact Option.some.inj present ▸ Cell.sound_of_no_tally parts.distinct
  · obtain ⟨leaf, leafMember, rfl⟩ := List.mem_map.mp member
    rw [parts.getElem?_leaf leafMember] at present
    exact Option.some.inj present ▸ parts.sound leaf leafMember

theorem clientsBelow_top : (splitInto top leaves).clientsBelow top =
    (leaves.map fun leaf => leaf.2.clientCount).sum :=
  ((parts.wellFormed isCell room).sum_leaves (parts.getElem?_top isCell room) parts.areLeaves
    parts.top_not_leaf).symm

end Parts

/-! ## The face of a place -/

section Place

variable {place : Location} {key : String} {amount : Nat}

/-- The children of the face of a place, but for the one around the place, without clients. -/
def elsewhere (place : Location) : List (CellId × Cell) :=
  ((place.cellAt 0).children.erase (place.cellAt 1)).map fun child => (child, Cell.empty)

/-- The children of the face of a place, with clients in the one around the place. -/
def around (place : Location) (key : String) (amount : Nat) : List (CellId × Cell) :=
  (place.cellAt 1, { tally := Tally.empty.add key place amount }) :: elsewhere place

theorem level_face (place : Location) : (place.cellAt 0).level = 0 :=
  place.level_cellAt (by decide)

theorem room_face (place : Location) : (place.cellAt 0).level < CellId.finestLevel := by
  rw [level_face]
  decide

theorem isCell_face (place : Location) : (place.cellAt 0).IsCell :=
  place.isCell_cellAt (by decide)

theorem map_fst_elsewhere (place : Location) : (elsewhere place).map Prod.fst =
    (place.cellAt 0).children.erase (place.cellAt 1) := by
  rw [elsewhere, List.map_map]
  exact List.map_id _

theorem nodup_elsewhere (place : Location) : ((elsewhere place).map Prod.fst).Nodup := by
  rw [map_fst_elsewhere]
  exact ((isCell_face place).nodup_children (room_face place)).erase _

theorem not_mem_elsewhere (place : Location) :
    place.cellAt 1 ∉ (elsewhere place).map Prod.fst := by
  rw [map_fst_elsewhere]
  exact ((isCell_face place).nodup_children (room_face place)).not_mem_erase

theorem elsewhere_ne_nil (place : Location) : elsewhere place ≠ [] := by
  have listed := place.cellAt_succ_mem_children (show 0 < CellId.finestLevel by decide)
  have three : (elsewhere place).length = 3 := by
    rw [elsewhere, List.length_map, List.length_erase_of_mem listed]
    rfl
  exact List.ne_nil_of_length_pos (by omega)

theorem parts_elsewhere (place : Location) : Parts (place.cellAt 0) (elsewhere place) where
  nonempty := elsewhere_ne_nil place
  distinct := nodup_elsewhere place
  listed leaf member := by
    have erased := List.mem_map_of_mem (f := Prod.fst) member
    rw [map_fst_elsewhere] at erased
    exact List.mem_of_mem_erase erased
  isLeaf leaf member := by
    obtain ⟨child, _, rfl⟩ := List.mem_map.mp member
    rfl
  sound leaf member := by
    obtain ⟨child, _, rfl⟩ := List.mem_map.mp member
    exact Cell.sound_empty child

theorem wellFormed_elsewhere (place : Location) :
    (splitInto (place.cellAt 0) (elsewhere place)).WellFormed 0 1 := by
  have wellFormed := (parts_elsewhere place).wellFormed (isCell_face place) (room_face place)
  rwa [level_face] at wellFormed

/-- Without the cell around it a place has no leaf. -/
theorem not_leafAt_elsewhere {leaf : CellId} :
    ¬ (splitInto (place.cellAt 0) (elsewhere place)).LeafAt place leaf := by
  have parts := parts_elsewhere place
  rintro ⟨falls, cell, present, isLeaf⟩
  have different : leaf ≠ place.cellAt 0 := by
    rintro rfl
    obtain ⟨_, facePresent, split⟩ := Forest.isSplit_iff.mp
      ((parts.isSplit_iff (isCell_face place) (room_face place)).mpr rfl)
    rw [present] at facePresent
    rw [Option.some.inj facePresent, split] at isLeaf
    exact Bool.noConfusion isLeaf
  have listed : leaf ∈ (elsewhere place).map Prod.fst := by
    by_contra apart
    rw [parts.getElem?_of_not_mem (isCell_face place) (room_face place) different apart] at present
    cases present
  have level := (parts.inside (isCell_face place) (room_face place) listed).2.1
  rw [Location.FallsInto, level, level_face] at falls
  exact not_mem_elsewhere place (falls ▸ listed)

/-- Clients of one bucket are in order in any cell that its place falls into. -/
theorem sound_add {id : CellId} (located : Bucket.representative key = .ok place)
    (positive : 0 < amount) (falls : place.FallsInto id) :
    Cell.Sound id { tally := Tally.empty.add key place amount } := by
  refine Cell.sound_leaf (Tally.sound_empty.add positive located) fun other bucket present => ?_
  obtain moved | ⟨old, presentBefore, _⟩ := Tally.getElem?_of_add present
  · rwa [moved]
  · simp [Tally.empty] at presentBefore

theorem parts_around (located : Bucket.representative key = .ok place) (positive : 0 < amount) :
    Parts (place.cellAt 0) (around place key amount) := by
  have home : place.cellAt 1 ∈ (place.cellAt 0).children :=
    place.cellAt_succ_mem_children (by decide)
  have falls : place.FallsInto (place.cellAt 1) := place.fallsInto_cellAt (by decide)
  exact (parts_elsewhere place).cons (not_mem_elsewhere place) home rfl
    (sound_add located positive falls)

theorem getElem?_around (located : Bucket.representative key = .ok place) (positive : 0 < amount) :
    (splitInto (place.cellAt 0) (around place key amount)).cells[place.cellAt 1]? =
      some { tally := Tally.empty.add key place amount } := by
  have listed : (place.cellAt 1, { tally := Tally.empty.add key place amount }) ∈
      around place key amount := List.mem_cons_self
  have present := (parts_around located positive).getElem?_leaf listed
  exact present

theorem sum_around (place : Location) (key : String) (amount : Nat) :
    ((around place key amount).map fun leaf => leaf.2.clientCount).sum = amount := by
  have none : ((elsewhere place).map fun leaf => leaf.2.clientCount).sum = 0 := by
    rw [elsewhere, List.map_map]
    exact List.sum_eq_zero fun count member => by
      obtain ⟨_, _, rfl⟩ := List.mem_map.mp member
      rfl
  rw [around, List.map_cons, List.sum_cons, none]
  exact Nat.zero_add amount

end Place

end Forest

end LoadAtlas
