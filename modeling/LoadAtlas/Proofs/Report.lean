import LoadAtlas.Proofs.Json.Survive
import LoadAtlas.Report

/-!
# Statistics survive being written

Both kinds of statistics are records of words, so they are read back from what is written, and
from every other object or list that gives the same words.
-/

namespace LoadAtlas

namespace IndexStats

/-- The sums, in the order in which they are written. -/
def gauges : List (Json.Gauge IndexStats) :=
  [⟨"entities", "usize", entities, fun stats entities => { stats with entities }⟩,
    ⟨"cells", "usize", cells, fun stats cells => { stats with cells }⟩,
    ⟨"active_cells", "usize", activeCells, fun stats activeCells => { stats with activeCells }⟩,
    ⟨"tracked_clients", "u64", trackedClients, fun stats trackedClients =>
      { stats with trackedClients }⟩,
    ⟨"splits", "u64", splits, fun stats splits => { stats with splits }⟩,
    ⟨"merges", "u64", merges, fun stats merges => { stats with merges }⟩]

theorem gauged_record : Json.Gauged record gauges where
  slots := rfl
  tolerant := rfl
  strict := rfl
  distinct := by decide
  get_put := by simp [gauges]
  get_put_of_ne := by simp [gauges]
  ext := by
    rintro ⟨⟩ ⟨⟩ same
    simpa [gauges] using same

end IndexStats

namespace LoadStats

/-- The sums, in the order in which they are written. -/
def gauges : List (Json.Gauge LoadStats) :=
  [⟨"entities", "usize", entities, fun stats entities => { stats with entities }⟩,
    ⟨"window_total", "u64", windowTotal, fun stats windowTotal => { stats with windowTotal }⟩,
    ⟨"recorded", "u64", recorded, fun stats recorded => { stats with recorded }⟩,
    ⟨"pending_expirations", "u64", pendingExpirations, fun stats pendingExpirations =>
      { stats with pendingExpirations }⟩,
    ⟨"rotations", "u64", rotations, fun stats rotations => { stats with rotations }⟩]

theorem gauged_record : Json.Gauged record gauges where
  slots := rfl
  tolerant := rfl
  strict := rfl
  distinct := by decide
  get_put := by simp [gauges]
  get_put_of_ne := by simp [gauges]
  ext := by
    rintro ⟨⟩ ⟨⟩ same
    simpa [gauges] using same

end LoadStats

/-- Statistics of both kinds survive being written and read, for all words. -/
theorem survives_statistics :
    Json.Survives IndexStats.gauges (fun stats => stats.toJson.render) IndexStats.record.ofText ∧
    Json.Survives LoadStats.gauges (fun stats => stats.toJson.render) LoadStats.record.ofText :=
  ⟨IndexStats.gauged_record.survives fun _ => rfl, LoadStats.gauged_record.survives fun _ => rfl⟩

/-- Among the members are a lone half of a pair and a number beyond every double. -/
example : (LoadStats.record.ofText
    ("\x7b\"rotations\": 5, \"?\": [\x7b\"\\ud800\": -1e999\x7d, []], \"recorded\": 3, " ++
      "\"entities\": 1, \"window_total\": 2, \"pending_expirations\": 0\x7d")).toOption =
      some ⟨1, 2, 3, 0, 5⟩ := by
  decide +kernel

end LoadAtlas
