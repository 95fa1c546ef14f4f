import LoadAtlas.Proofs.Forest.Canonical
import LoadAtlas.Proofs.Forest.Walk

/-!
# Views of forests

A view is all that can be seen of a forest: its top cells, its leaves, the report of every cell,
its size and its audit.  Two canonical forests with the same clients have the same view.
-/

namespace LoadAtlas

namespace Forest

/-- What can be seen of a forest. -/
structure View where
  topCells : List CellId
  activeCells : List CellId
  report? : CellId → Option CellReport
  size : Nat
  audit : Except Defect Unit

def view (forest : Forest) : View where
  topCells := forest.topCells
  activeCells := forest.activeCells
  report? := forest.report?
  size := forest.size
  audit := forest.audit

namespace View

def countAt (view : View) (id : CellId) : Nat :=
  match view.report? id with
  | some report => report.clientCount
  | none => 0

def clientCount (view : View) : Nat :=
  (view.activeCells.map view.countAt).sum

end View

variable {topLevel maxLevel splitThreshold : Nat} {first second forest : Forest}

theorem countAt_view (forest : Forest) : forest.view.countAt = forest.countAt := by
  funext id
  cases present : forest.cells[id]? <;>
    simp [View.countAt, view, report?, countAt, present, Cell.report]

theorem clientCount_view (forest : Forest) : forest.view.clientCount = forest.clientCount := by
  rw [View.clientCount, countAt_view]
  rfl

theorem clientCount_eq_of_view_eq (same : first.view = second.view) :
    first.clientCount = second.clientCount := by
  rw [← clientCount_view, ← clientCount_view, same]

theorem length_activeCells (forest : Forest) : forest.activeCells.length = forest.activeSize :=
  Std.ExtTreeSet.length_toList

theorem WellFormed.length_branches_eq_of_view_eq
    (firstWellFormed : first.WellFormed topLevel maxLevel)
    (secondWellFormed : second.WellFormed topLevel maxLevel) (same : first.view = second.view) :
    first.branches.length = second.branches.length := by
  have sizes : first.size = second.size := congrArg View.size same
  have leaves : first.activeSize = second.activeSize := by
    rw [← length_activeCells, ← length_activeCells]
    exact congrArg (fun view => view.activeCells.length) same
  rw [firstWellFormed.size_eq, secondWellFormed.size_eq, leaves] at sizes
  exact Nat.add_left_cancel sizes

theorem reports_eq_of_view_eq (same : first.view = second.view) :
    first.reports = second.reports := by
  have sameReport : first.report? = second.report? := congrArg View.report? same
  have sameTops : first.topCells = second.topCells := congrArg View.topCells same
  have walks (levels : Nat) (ids : List CellId) :
      first.reportsFrom levels ids = second.reportsFrom levels ids := by
    induction levels generalizing ids with
    | zero => rfl
    | succ levels induction => simp only [reportsFrom, sameReport, induction]
  rw [reports, reports, walks, sameTops]

namespace Canonical

variable (firstCanonical : first.Canonical topLevel maxLevel splitThreshold)
  (secondCanonical : second.Canonical topLevel maxLevel splitThreshold)
  (bounded : maxLevel ≤ CellId.finestLevel)
  (sameClients : ∀ weight, first.weigh weight = second.weigh weight)

include firstCanonical secondCanonical sameClients

theorem isLeaf_eq {id : CellId} {here there : Cell} (firstPresent : first.cells[id]? = some here)
    (secondPresent : second.cells[id]? = some there) : here.isLeaf = there.isLeaf := by
  have inside : first.clientsInside id = second.clientsInside id := sameClients _
  rw [Bool.eq_iff_iff, firstCanonical.isLeaf_iff firstPresent,
    secondCanonical.isLeaf_iff secondPresent, inside]

theorem tally_eq {id : CellId} {here there : Cell} (firstPresent : first.cells[id]? = some here)
    (secondPresent : second.cells[id]? = some there) : here.tally = there.tally := by
  have sameLeaf := firstCanonical.isLeaf_eq secondCanonical sameClients firstPresent secondPresent
  have hereSound := firstCanonical.wellFormed.sound firstPresent
  have thereSound := secondCanonical.wellFormed.sound secondPresent
  cases isLeaf : here.isLeaf with
  | false => rw [hereSound.split isLeaf, thereSound.split (sameLeaf ▸ isLeaf)]
  | true =>
      have sameBuckets : here.tally.buckets = there.tally.buckets := by
        refine Std.ExtTreeMap.ext_getElem? fun key => Option.ext fun bucket => ?_
        rw [firstCanonical.getElem?_leaf_iff firstPresent isLeaf,
          secondCanonical.getElem?_leaf_iff secondPresent (sameLeaf ▸ isLeaf),
          countOf_eq_weigh, countOf_eq_weigh, sameClients]
      exact hereSound.tally.balanced.eq_of_buckets_eq thereSound.tally.balanced sameBuckets

include bounded

theorem mem_cells_iff_mem {id : CellId} : id ∈ first.cells ↔ id ∈ second.cells := by
  rw [firstCanonical.mem_cells_iff bounded, secondCanonical.mem_cells_iff bounded]
  simp only [clientsInside, sameClients]

theorem report?_eq (id : CellId) : first.report? id = second.report? id := by
  have sameCells {id : CellId} : id ∈ first.cells ↔ id ∈ second.cells :=
    firstCanonical.mem_cells_iff_mem secondCanonical bounded sameClients
  by_cases inFirst : id ∈ first.cells
  · obtain ⟨here, firstPresent⟩ := Forest.mem_cells_iff.mp inFirst
    obtain ⟨there, secondPresent⟩ := Forest.mem_cells_iff.mp (sameCells.mp inFirst)
    have sameTally := firstCanonical.tally_eq secondCanonical sameClients firstPresent secondPresent
    have sameMembers (child : CellId) : child ∈ here.children ↔ child ∈ there.children := by
      simp only [firstCanonical.wellFormed.mem_children_iff firstPresent,
        secondCanonical.wellFormed.mem_children_iff secondPresent, sameCells]
    -- The two cells may list their children in different orders.
    have sameChildren : (here.report id).children = (there.report id).children :=
      Cell.children_report_eq <| (List.perm_ext_iff_of_nodup
        (firstCanonical.wellFormed.sound firstPresent).nodup
        (secondCanonical.wellFormed.sound secondPresent).nodup).mpr sameMembers
    have sameReports : here.report id = there.report id := by
      rw [Cell.report, Cell.report, Cell.clientCount, Cell.clientCount, sameTally]
      exact congrArg (CellReport.mk id id.level there.tally.total · there.tally.byKey) sameChildren
    rw [report?, report?, firstPresent, secondPresent, Option.map_some, Option.map_some,
      sameReports]
  · have notInSecond : id ∉ second.cells := fun member => inFirst (sameCells.mpr member)
    simp only [report?, Std.ExtTreeMap.getElem?_eq_none inFirst,
      Std.ExtTreeMap.getElem?_eq_none notInSecond]

/-- Canonical forests with the same clients cannot be told apart. -/
theorem view_eq : first.view = second.view := by
  have sameCells {id : CellId} : id ∈ first.cells ↔ id ∈ second.cells :=
    firstCanonical.mem_cells_iff_mem secondCanonical bounded sameClients
  have sameTops : first.tops = second.tops := Std.ExtTreeSet.ext_mem fun id => by
    rw [firstCanonical.wellFormed.tops, secondCanonical.wellFormed.tops, sameCells]
  have sameActive : first.active = second.active := Std.ExtTreeSet.ext_mem fun id => by
    rw [firstCanonical.mem_active_iff, secondCanonical.mem_active_iff, sameCells]
    simp only [clientsInside, sameClients]
  have sameSize : first.size = second.size := by
    have perm : first.cells.keys.Perm second.cells.keys := by
      rw [List.perm_ext_iff_of_nodup Std.ExtTreeMap.nodup_keys Std.ExtTreeMap.nodup_keys]
      intro id
      rw [Std.ExtTreeMap.mem_keys, Std.ExtTreeMap.mem_keys, sameCells]
    rw [size, size, ← Std.ExtTreeMap.length_keys, ← Std.ExtTreeMap.length_keys, perm.length_eq]
  simp only [view, topCells, activeCells, sameTops, sameActive, sameSize,
    firstCanonical.wellFormed.audit, secondCanonical.wellFormed.audit,
    funext (firstCanonical.report?_eq secondCanonical bounded sameClients)]

end Canonical

end Forest

end LoadAtlas
