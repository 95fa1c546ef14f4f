import LoadAtlas.Proofs.Bucket.Weight

/-!
# Buckets that expire

An expiry takes what some buckets count out of a store, as far as it is there.  From a store that
counts at least as much for every key nothing is cut off at zero: after the expiry the store counts
less by exactly what the buckets counted, in whatever order they come.
-/

namespace LoadAtlas

/-- The number of requests with a key in some buckets. -/
def Bucket.countIn (entries : List (String × Bucket)) (key : String) : Nat :=
  (entries.map fun entry => BucketTable.only key entry.1 * entry.2.count).sum

namespace Bucket

variable {entries : List (String × Bucket)} {entry : String × Bucket} {key : String}

theorem countIn_toList (buckets : BucketTable) (key : String) :
    countIn buckets.toList key = buckets.countOf key := by
  rw [BucketTable.countOf_eq_weigh]
  rfl

theorem countIn_cons (entry : String × Bucket) (entries : List (String × Bucket)) (key : String) :
    countIn (entry :: entries) key =
      (if entry.1 = key then entry.2.count else 0) + countIn entries key := by
  by_cases same : entry.1 = key <;> simp [countIn, BucketTable.only, same]

theorem countIn_append (first second : List (String × Bucket)) (key : String) :
    countIn (first ++ second) key = countIn first key + countIn second key := by
  simp [countIn]

theorem countIn_perm {other : List (String × Bucket)} (perm : entries.Perm other) (key : String) :
    countIn entries key = countIn other key :=
  (perm.map _).sum_nat

theorem countIn_eraseIdx {index : Nat} (found : entries[index]? = some entry) (key : String) :
    (if entry.1 = key then entry.2.count else 0) + countIn (entries.eraseIdx index) key =
      countIn entries key := by
  obtain ⟨bound, rfl⟩ := List.getElem?_eq_some_iff.mp found
  rw [← countIn_cons]
  exact countIn_perm (List.getElem_cons_eraseIdx_perm bound) key

end Bucket

namespace Tally

variable {buckets : BucketTable} {entries : List (String × Bucket)} {tally expired : Tally}

theorem expireBucket_eq_remove (tally : Tally) (key : String) (expired : Nat) :
    expireBucket tally.buckets key expired = (tally.remove key expired).1.buckets := by
  cases present : tally.buckets[key]? with
  | none => simp [expireBucket, remove, present]
  | some bucket =>
      by_cases emptied : bucket.count ≤ expired
      · simp [expireBucket, remove, present, emptied]
      · have rest : bucket.count - min expired bucket.count = bucket.count - expired := by omega
        have something : bucket.count - expired ≠ 0 := by omega
        simp [expireBucket, remove, present, emptied, rest, something]

theorem weigh_expireBucket (weight : String → Nat) (buckets : BucketTable) (key : String)
    (expired : Nat) : (expireBucket buckets key expired).weigh weight +
      weight key * min expired (buckets.countOf key) = buckets.weigh weight := by
  let tally : Tally := { buckets }
  have weighed := weigh_remove weight tally key expired
  rwa [remove_snd, ← expireBucket_eq_remove] at weighed

theorem sound_expireBucket (sound : buckets.Sound) (key : String) (expired : Nat) :
    (expireBucket buckets key expired).Sound := by
  cases present : buckets[key]? with
  | none => simpa [expireBucket, present] using sound
  | some bucket =>
      simp only [expireBucket, present]
      split
      · exact sound.erase key
      · exact sound.insert ⟨by simp only; omega, (sound key bucket present).located⟩

theorem countOf_expireBucket (buckets : BucketTable) (key : String) (expired : Nat)
    (other : String) : (expireBucket buckets key expired).countOf other =
      buckets.countOf other - if key = other then expired else 0 := by
  have weighed := weigh_expireBucket (BucketTable.only other) buckets key expired
  rw [← BucketTable.countOf_eq_weigh, ← BucketTable.countOf_eq_weigh] at weighed
  by_cases same : key = other
  · subst other
    simp only [BucketTable.only, ↓reduceIte] at weighed ⊢
    omega
  · simp only [BucketTable.only, same, ↓reduceIte] at weighed ⊢
    omega

/-- Of each bucket expires what is there, as long as no key comes twice. -/
theorem weigh_foldl_expireBucket (weight : String → Nat)
    (distinct : (entries.map Prod.fst).Nodup) :
    (entries.foldl (fun buckets entry => expireBucket buckets entry.1 entry.2.count)
        buckets).weigh weight + (entries.map fun entry =>
          weight entry.1 * min entry.2.count (buckets.countOf entry.1)).sum =
      buckets.weigh weight := by
  induction entries generalizing buckets with
  | nil => simp
  | cons entry entries induction =>
      obtain ⟨fresh, distinct⟩ := List.nodup_cons.mp distinct
      have untouched : (entries.map fun other => weight other.1 * min other.2.count
            ((expireBucket buckets entry.1 entry.2.count).countOf other.1)).sum =
          (entries.map fun other =>
            weight other.1 * min other.2.count (buckets.countOf other.1)).sum := by
        congr 1
        refine List.map_congr_left fun other member => ?_
        have different : entry.1 ≠ other.1 := fun same =>
          fresh (same ▸ List.mem_map_of_mem member)
        rw [countOf_expireBucket, if_neg different, Nat.sub_zero]
      have head := weigh_expireBucket weight buckets entry.1 entry.2.count
      have rest := @induction (expireBucket buckets entry.1 entry.2.count) distinct
      rw [List.foldl_cons, List.map_cons, List.sum_cons]
      omega

/-- How much two tallies have in common, each key with its weight. -/
def common (weight : String → Nat) (tally expired : Tally) : Nat :=
  Table.sum (fun key bucket => weight key * min bucket.count (tally.buckets.countOf key))
    expired.buckets

/-- What a tally has in common with another one leaves its breakdown. -/
theorem weigh_subtract_add_common (weight : String → Nat) (tally expired : Tally) :
    (tally.subtract expired).buckets.weigh weight + common weight tally expired =
      tally.buckets.weigh weight :=
  weigh_foldl_expireBucket weight (Table.nodup_map_fst_toList expired.buckets)

/-- All of a tally is common to it and another one iff the other one counts as much for every
key. -/
theorem common_eq_sum_iff {tally expired : Tally} :
    common (fun _ => 1) tally expired = expired.buckets.sum ↔
      ∀ key, expired.buckets.countOf key ≤ tally.buckets.countOf key := by
  have split : Table.sum (fun key bucket => bucket.count - tally.buckets.countOf key)
      expired.buckets + common (fun _ => 1) tally expired = expired.buckets.sum := by
    rw [common, ← Table.sum_add, BucketTable.sum_eq_weigh, BucketTable.weigh]
    exact Table.sum_congr fun key bucket _ => by omega
  constructor
  · intro all key
    by_contra beyond
    cases present : expired.buckets[key]? with
    | none => simp [BucketTable.countOf, present] at beyond
    | some bucket =>
        have excess : 0 < Table.sum (fun key bucket => bucket.count - tally.buckets.countOf key)
            expired.buckets :=
          Table.sum_pos_iff.mpr ⟨key, bucket, present, by
            simp only [BucketTable.countOf, present] at beyond ⊢
            omega⟩
        omega
  · intro covered
    have nothing : ¬ 0 < Table.sum (fun key bucket => bucket.count - tally.buckets.countOf key)
        expired.buckets := by
      rw [Table.sum_pos_iff]
      rintro ⟨key, bucket, present, positive⟩
      have bound := covered key
      simp only [BucketTable.countOf, present] at bound positive
      omega
    omega

/-- For each key, a subtraction takes off what is there to take. -/
theorem countOf_subtract_eq_sub (tally expired : Tally) (key : String) :
    (tally.subtract expired).buckets.countOf key =
      tally.buckets.countOf key - expired.buckets.countOf key := by
  have weighed := weigh_subtract_add_common (BucketTable.only key) tally expired
  have both : common (BucketTable.only key) tally expired =
      min (expired.buckets.countOf key) (tally.buckets.countOf key) := by
    rw [common, Table.sum_eq_measureAt _ key]
    · cases present : expired.buckets[key]? <;>
        simp [Table.measureAt, BucketTable.countOf, BucketTable.only, present]
    · intro other bucket _ different
      simp [BucketTable.only, different]
  rw [both, ← BucketTable.countOf_eq_weigh, ← BucketTable.countOf_eq_weigh] at weighed
  omega

theorem subtract_empty (expired : Tally) : subtract {} expired = {} := by
  have nothing : expired.buckets.toList.foldl
      (fun buckets entry => expireBucket buckets entry.1 entry.2.count) (∅ : BucketTable) = ∅ := by
    induction expired.buckets.toList with
    | nil => rfl
    | cons entry entries induction => simpa [expireBucket] using induction
  simp [subtract, nothing]

section

variable (sound : tally.Sound) (expiredSound : expired.Sound)
  (covered : ∀ key, expired.buckets.countOf key ≤ tally.buckets.countOf key)

include covered

theorem weigh_subtract (weight : String → Nat) :
    (tally.subtract expired).buckets.weigh weight + expired.buckets.weigh weight =
      tally.buckets.weigh weight := by
  have all : common weight tally expired = expired.buckets.weigh weight :=
    Table.sum_congr fun key bucket present => by
      have bound := covered key
      simp only [BucketTable.countOf, present] at bound
      rw [BucketTable.countOf, Nat.min_eq_left bound]
  rw [← all]
  exact weigh_subtract_add_common weight tally expired

/-- A tally without what it holds as well counts that much less, for every key. -/
theorem countOf_subtract (key : String) :
    (tally.subtract expired).buckets.countOf key + expired.buckets.countOf key =
      tally.buckets.countOf key := by
  rw [countOf_subtract_eq_sub, Nat.sub_add_cancel (covered key)]

include sound expiredSound

theorem total_le_of_covered : expired.total ≤ tally.total := by
  have weighed := weigh_subtract covered fun _ => 1
  rw [sound.balanced, expiredSound.balanced, BucketTable.sum_eq_weigh, BucketTable.sum_eq_weigh]
  omega

theorem Sound.subtract : (tally.subtract expired).Sound where
  balanced := by
    have weighed := weigh_subtract covered fun _ => 1
    have total : (tally.subtract expired).total = tally.total - expired.total := rfl
    rw [Balanced, total, sound.balanced, expiredSound.balanced]
    simp only [BucketTable.sum_eq_weigh]
    omega
  buckets := List.foldlRecOn (motive := BucketTable.Sound) _ _ sound.buckets
    fun buckets kept entry _ => sound_expireBucket kept entry.1 entry.2.count

end

end Tally

end LoadAtlas
