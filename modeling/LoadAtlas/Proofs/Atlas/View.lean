import LoadAtlas.Atlas.Run
import LoadAtlas.Proofs.Forest.View

/-!
# Views of atlases

A view of an atlas is its overrides, its counters and the views of its forests.  All answers are
read off the view, so an atlas answers every query as any other one with the same view does.
-/

namespace LoadAtlas

namespace Atlas

/-- What can be seen of an atlas. -/
structure View where
  overrides : Std.ExtTreeMap String (List CellId)
  forests : Std.ExtTreeMap String Forest.View
  splits : Nat
  merges : Nat

def view (atlas : Atlas) : View where
  overrides := atlas.overrides
  forests := atlas.territories.map fun _ territory => territory.forest.view
  splits := atlas.splits
  merges := atlas.merges

theorem getElem?_forests (atlas : Atlas) (entity : String) : atlas.view.forests[entity]? =
    atlas.territories[entity]?.map fun territory => territory.forest.view :=
  Std.ExtTreeMap.getElem?_map

theorem toList_forests (atlas : Atlas) : atlas.view.forests.toList =
    atlas.territories.toList.map fun entry => (entry.1, entry.2.forest.view) :=
  Std.ExtTreeMap.toList_map

section

variable {first second : Atlas} (same : first.view = second.view)

include same

theorem overrides_eq_of_view_eq : first.overrides = second.overrides :=
  congrArg View.overrides same

/-- An entity is unknown to both atlases, or its forests look the same. -/
theorem territory_cases_of_view_eq (entity : String) :
    first.territories[entity]? = none ∧ second.territories[entity]? = none ∨
      ∃ here there : Territory, first.territories[entity]? = some here ∧
        second.territories[entity]? = some there ∧ here.forest.view = there.forest.view := by
  have views := congrArg (fun view => view.forests[entity]?) same
  simp only [getElem?_forests] at views
  cases inFirst : first.territories[entity]? <;> cases inSecond : second.territories[entity]? <;>
    simp_all

theorem map_toList_eq_of_view_eq {Shown : Type} (shown : String → Forest.View → Shown) :
    (first.territories.toList.map fun entry => shown entry.1 entry.2.forest.view) =
      second.territories.toList.map fun entry => shown entry.1 entry.2.forest.view := by
  have views := congrArg
    (fun view => view.forests.toList.map fun entry => shown entry.1 entry.2) same
  simpa only [toList_forests, List.map_map, Function.comp_def] using views

theorem map_forest_eq_of_view_eq {Shown : Type} {shown : Forest → Shown}
    (reads : ∀ {here there : Forest}, here.view = there.view → shown here = shown there)
    (entity : String) : (first.territories[entity]?.map fun territory => shown territory.forest) =
      second.territories[entity]?.map fun territory => shown territory.forest := by
  rcases territory_cases_of_view_eq same entity with
    ⟨inFirst, inSecond⟩ | ⟨here, there, inFirst, inSecond, views⟩
  · rw [inFirst, inSecond]
  · rw [inFirst, inSecond, Option.map_some, Option.map_some, reads views]

/-! ## Answers -/

theorem centroids?_eq_of_view_eq (entity : String) :
    first.centroids? entity = second.centroids? entity := by
  have leaves := map_forest_eq_of_view_eq same (congrArg Forest.View.activeCells) entity
  simp only [centroids?, overrides_eq_of_view_eq same]
  split
  · rfl
  · exact leaves

theorem weightedCentroids_eq_of_view_eq (entity : String) :
    first.weightedCentroids entity = second.weightedCentroids entity := by
  simp only [weightedCentroids, overrides_eq_of_view_eq same]
  split
  · rfl
  · rcases territory_cases_of_view_eq same entity with
      ⟨inFirst, inSecond⟩ | ⟨here, there, inFirst, inSecond, views⟩
    · simp only [inFirst, inSecond]
    · simp only [inFirst, inSecond, ← Forest.countAt_view]
      exact congrArg (fun view => some <$> view.activeCells.mapM fun cell =>
        cell.weighted (view.countAt cell)) views

theorem distribution_eq_of_view_eq (entity : String) :
    first.distribution entity = second.distribution entity := by
  rw [distribution, distribution, weightedCentroids_eq_of_view_eq same]

theorem clientCount?_eq_of_view_eq (entity : String) :
    first.clientCount? entity = second.clientCount? entity :=
  map_forest_eq_of_view_eq same Forest.clientCount_eq_of_view_eq entity

theorem topCells?_eq_of_view_eq (entity : String) :
    first.topCells? entity = second.topCells? entity :=
  map_forest_eq_of_view_eq same (congrArg Forest.View.topCells) entity

theorem report?_eq_of_view_eq (entity : String) (id : CellId) :
    first.report? entity id = second.report? entity id := by
  rcases territory_cases_of_view_eq same entity with
    ⟨inFirst, inSecond⟩ | ⟨here, there, inFirst, inSecond, views⟩
  · rw [report?, report?, inFirst, inSecond]
  · rw [report?, report?, inFirst, inSecond]
    exact congrArg (fun view => view.report? id) views

theorem reports?_eq_of_view_eq (entity : String) :
    first.reports? entity = second.reports? entity :=
  map_forest_eq_of_view_eq same Forest.reports_eq_of_view_eq entity

theorem entities_eq_of_view_eq : first.entities = second.entities := by
  have names := map_toList_eq_of_view_eq same fun entity _ => entity
  rwa [Std.ExtTreeMap.map_fst_toList_eq_keys, Std.ExtTreeMap.map_fst_toList_eq_keys] at names

theorem stats_eq_of_view_eq : first.stats = second.stats := by
  have entities := congrArg List.length (entities_eq_of_view_eq same)
  have sizes := map_toList_eq_of_view_eq same fun _ view => view.size
  have leaves := map_toList_eq_of_view_eq same fun _ view => view.activeCells.length
  have clients := map_toList_eq_of_view_eq same fun _ view => view.clientCount
  have splits : first.splits = second.splits := congrArg View.splits same
  have merges : first.merges = second.merges := congrArg View.merges same
  simp only [Forest.view, Forest.length_activeCells] at sizes leaves
  simp only [Forest.clientCount_view] at clients
  simp only [Atlas.entities, Std.ExtTreeMap.length_keys] at entities
  simp only [stats, List.length_map, Std.ExtTreeMap.length_toList, List.map_map, Function.comp_def,
    entities, sizes, leaves, clients, splits, merges]

/-- Atlases with the same view answer alike. -/
theorem answer_eq_of_view_eq (query : Query) : first.answer query = second.answer query := by
  cases query with
  | centroids entity => rw [answer, answer, centroids?_eq_of_view_eq same]
  | weightedCentroids entity => rw [answer, answer, weightedCentroids_eq_of_view_eq same]
  | distribution entity => rw [answer, answer, distribution_eq_of_view_eq same]
  | isExploring entity =>
      rw [answer, answer, isExploring, isExploring, overrides_eq_of_view_eq same]
  | clientCount entity => rw [answer, answer, clientCount?_eq_of_view_eq same]
  | topCells entity => rw [answer, answer, topCells?_eq_of_view_eq same]
  | report entity id => rw [answer, answer, report?_eq_of_view_eq same]
  | audit entity =>
      exact congrArg Answer.audit
        (map_forest_eq_of_view_eq same (congrArg Forest.View.audit) entity)
  | entities => rw [answer, answer, entities_eq_of_view_eq same]
  | stats => rw [answer, answer, stats_eq_of_view_eq same]

end

end Atlas

end LoadAtlas
