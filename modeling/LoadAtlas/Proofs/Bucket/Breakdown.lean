import LoadAtlas.Proofs.Bucket.Weight

/-!
# Breakdowns

A breakdown lists every bucket of a tally once, the busiest first, and equally busy ones in the
order of their keys.  Only the counts are compared when a breakdown is sorted; that equally
busy buckets follow their keys is due to the order in which the table lists them and to a sort
that never swaps what it need not.
-/

namespace LoadAtlas

namespace Tally

variable {tally : Tally} {entry : BucketCount}

theorem mem_byKey_iff : entry ∈ tally.byKey ↔
    tally.buckets[entry.key]? = some ⟨entry.location, entry.count⟩ := by
  rw [byKey, List.mem_map]
  constructor
  · rintro ⟨⟨key, bucket⟩, member, rfl⟩
    exact Std.ExtTreeMap.mem_toList_iff_getElem?_eq_some.mp member
  · intro present
    exact ⟨(entry.key, ⟨entry.location, entry.count⟩),
      Std.ExtTreeMap.mem_toList_iff_getElem?_eq_some.mpr present, rfl⟩

theorem pairwise_byKey (tally : Tally) :
    tally.byKey.Pairwise fun first second => first.key < second.key := by
  have ordered : tally.buckets.toList.Pairwise fun first second =>
      compare first.1 second.1 = .lt :=
    Std.ExtTreeMap.ordered_keys_toList
  rw [byKey, List.pairwise_map]
  exact ordered.imp compareOfLessAndEq_eq_lt.mp

theorem mem_busiestFirst_iff : entry ∈ tally.busiestFirst ↔
    tally.buckets[entry.key]? = some ⟨entry.location, entry.count⟩ := by
  rw [busiestFirst, List.mem_mergeSort, mem_byKey_iff]

@[simp]
theorem busiestFirst_empty : empty.busiestFirst = [] := by
  rw [List.eq_nil_iff_forall_not_mem]
  intro entry member
  simp [mem_busiestFirst_iff, empty] at member

/-- The comparison of counts that a breakdown is sorted by. -/
def busier (first second : BucketCount) : Bool :=
  second.count ≤ first.count

theorem busier_trans (first second third : BucketCount) (firstBusier : busier first second = true)
    (secondBusier : busier second third = true) : busier first third = true := by
  simp only [busier, decide_eq_true_eq] at *
  omega

theorem busier_total (first second : BucketCount) :
    (busier first second || busier second first) = true := by
  simp only [busier, Bool.or_eq_true, decide_eq_true_eq]
  omega

/-- The buckets with a given count stand in the sorted list as they did before. -/
theorem filter_busiestFirst (tally : Tally) (count : Nat) :
    tally.busiestFirst.filter (fun entry => entry.count = count) =
      tally.byKey.filter fun entry => entry.count = count := by
  have sameCount : (tally.byKey.filter fun entry => entry.count = count).Pairwise
      fun first second => busier first second = true := by
    rw [List.pairwise_filter]
    refine tally.pairwise_byKey.imp fun {first second} _ firstCount secondCount => ?_
    simp only [decide_eq_true_eq] at firstCount secondCount
    simp only [busier, decide_eq_true_eq]
    omega
  have inSorted : (tally.byKey.filter fun entry => entry.count = count).Sublist
      tally.busiestFirst :=
    List.sublist_mergeSort busier_trans busier_total sameCount List.filter_sublist
  have inFilter := inSorted.filter fun entry => decide (entry.count = count)
  rw [List.filter_filter] at inFilter
  simp only [Bool.and_self] at inFilter
  refine (inFilter.eq_of_length ?_).symm
  exact (((List.mergeSort_perm tally.byKey _).filter _).length_eq).symm

/-- A breakdown is ordered by the counts, from the greatest, and then by the keys. -/
theorem pairwise_busiestFirst (tally : Tally) :
    tally.busiestFirst.Pairwise fun first second => second.count < first.count ∨
      second.count = first.count ∧ first.key < second.key := by
  have sorted : tally.busiestFirst.Pairwise fun first second =>
      busier first second = true :=
    List.pairwise_mergeSort busier_trans busier_total _
  rw [List.pairwise_iff_forall_sublist] at sorted ⊢
  intro first second inOrder
  have notLess : second.count ≤ first.count := by simpa [busier] using sorted inOrder
  rcases Nat.lt_or_eq_of_le notLess with less | same
  · exact .inl less
  · have inFilter := inOrder.filter fun entry => decide (entry.count = first.count)
    rw [filter_busiestFirst] at inFilter
    have inTable : [first, second].Sublist tally.byKey := by
      simpa [same] using inFilter.trans List.filter_sublist
    exact .inr ⟨same, List.pairwise_iff_forall_sublist.mp tally.pairwise_byKey inTable⟩

theorem nodup_map_key_busiestFirst (tally : Tally) :
    (tally.busiestFirst.map BucketCount.key).Nodup := by
  have keys : (tally.byKey.map BucketCount.key).Nodup := by
    rw [List.Nodup, List.pairwise_map]
    exact tally.pairwise_byKey.imp fun {first second} less same =>
      absurd (same ▸ less) (String.lt_irrefl _)
  exact ((List.mergeSort_perm tally.byKey _).map _).nodup_iff.mpr keys

end Tally

end LoadAtlas
