import LoadAtlas.Request.Check
import LoadAtlas.Proofs.Bucket.Content
import LoadAtlas.Proofs.Table.Sum
import Mathlib.Tactic.Ring

/-!
# Weighing buckets

Giving every key a weight, a table of buckets weighs the sum of its counts, each times the
weight of its key.  With weight one for all keys this is the number of requests, and with
weight one for a single key it is the count of that key; so one law for each operation on
tallies covers both.

A tally is sound if its total is the sum of its breakdown, no bucket is empty, and every bucket
lies at the representative location of its key.
-/

namespace LoadAtlas

namespace BucketTable

/-- The counts of a table, each times the weight of its key. -/
def weigh (weight : String → Nat) (buckets : BucketTable) : Nat :=
  Table.sum (fun key bucket => weight key * bucket.count) buckets

/-- The weight that counts one key only. -/
def only (key : String) : String → Nat :=
  fun other => if other = key then 1 else 0

variable {buckets : BucketTable} {weight : String → Nat} {key : String}

theorem sum_eq_weigh (buckets : BucketTable) : buckets.sum = buckets.weigh fun _ => 1 := by
  simp [sum, weigh, Table.sum]

theorem countOf_eq_weigh (buckets : BucketTable) (key : String) :
    buckets.countOf key = buckets.weigh (only key) := by
  rw [weigh, Table.sum_eq_measureAt _ key]
  · cases present : buckets[key]? <;> simp [countOf, Table.measureAt, present, only]
  · intro other bucket _ different
    simp [only, different]

theorem countOf_of_absent (absent : buckets[key]? = none) : buckets.countOf key = 0 := by
  rw [countOf, absent]

theorem countOf_le_sum (buckets : BucketTable) (key : String) :
    buckets.countOf key ≤ buckets.sum := by
  have bound := Table.measureAt_le_sum (fun _ bucket => bucket.count) buckets key
  cases present : buckets[key]? <;> simp_all [countOf, Table.measureAt, sum, Table.sum]

@[simp]
theorem weigh_empty (weight : String → Nat) : weigh weight ∅ = 0 :=
  Table.sum_empty _

/-- Adding to a bucket adds the weight of its key for every request. -/
theorem weigh_add (weight : String → Nat) (buckets : BucketTable) (key : String)
    (location : Location) (amount : Nat) :
    (buckets.add key location amount).weigh weight =
      buckets.weigh weight + weight key * amount := by
  cases present : buckets[key]? with
  | none =>
      simp only [add, present, weigh]
      exact Table.sum_insert_of_absent _ present _
  | some bucket =>
      have inserted := Table.sum_insert_of_present
        (fun key (bucket : Bucket) => weight key * bucket.count) present
        { bucket with count := bucket.count + amount }
      simp only [add, present, weigh]
      rw [Nat.mul_add] at inserted
      omega

theorem countOf_add (buckets : BucketTable) (key : String) (location : Location)
    (amount : Nat) (other : String) : (buckets.add key location amount).countOf other =
      buckets.countOf other + if key = other then amount else 0 := by
  rw [countOf_eq_weigh, countOf_eq_weigh, weigh_add]
  by_cases same : key = other <;> simp [only, same]

end BucketTable

/-- What an atlas keeps true of a bucket: it is not empty, and it lies at the representative
location of its key. -/
structure Bucket.Sound (key : String) (bucket : Bucket) : Prop where
  positive : 0 < bucket.count
  located : Bucket.representative key = .ok bucket.location

namespace BucketTable

variable {buckets : BucketTable} {weight : String → Nat} {key : String} {bucket : Bucket}

/-- All buckets of a table are sound. -/
def Sound (buckets : BucketTable) : Prop :=
  ∀ (key : String) (bucket : Bucket), buckets[key]? = some bucket → bucket.Sound key

theorem sound_empty : Sound ∅ := by
  intro key bucket present
  simp at present

theorem Sound.insert (sound : buckets.Sound) (inserted : bucket.Sound key) :
    Sound (buckets.insert key bucket) := by
  intro other found present
  by_cases same : key = other
  · subst other
    obtain rfl : bucket = found := by simpa using present
    exact inserted
  · exact sound other found (by simpa [Std.ExtTreeMap.getElem?_insert, same] using present)

theorem Sound.erase (sound : buckets.Sound) (key : String) : Sound (buckets.erase key) := by
  intro other found present
  by_cases same : key = other
  · simp [same] at present
  · exact sound other found (by simpa [Std.ExtTreeMap.getElem?_erase, same] using present)

theorem Sound.add (sound : buckets.Sound) {location : Location} {amount : Nat}
    (positive : 0 < amount) (located : Bucket.representative key = .ok location) :
    (buckets.add key location amount).Sound := by
  cases present : buckets[key]? with
  | none =>
      simp only [BucketTable.add, present]
      exact sound.insert ⟨positive, located⟩
  | some before =>
      simp only [BucketTable.add, present]
      exact sound.insert ⟨Nat.lt_of_lt_of_le positive (Nat.le_add_left _ _),
        (sound key before present).located⟩

theorem Sound.countOf_pos_iff (sound : buckets.Sound) :
    0 < buckets.countOf key ↔ ∃ bucket, buckets[key]? = some bucket := by
  cases present : buckets[key]? with
  | none => simp [countOf, present]
  | some bucket => simpa [countOf, present] using (sound key bucket present).positive

/-- A sound table is determined by its counts: the location of a bucket is that of its key. -/
theorem Sound.getElem?_eq {first second : BucketTable} (firstSound : first.Sound)
    (secondSound : second.Sound) (count : first.countOf key = second.countOf key) :
    first[key]? = second[key]? := by
  cases inFirst : first[key]? with
  | none =>
      cases inSecond : second[key]? with
      | none => rfl
      | some bucket =>
          have positive := (secondSound key bucket inSecond).positive
          simp only [countOf, inFirst, inSecond] at count
          omega
  | some bucket =>
      cases inSecond : second[key]? with
      | none =>
          have positive := (firstSound key bucket inFirst).positive
          simp only [countOf, inFirst, inSecond] at count
          omega
      | some other =>
          have here := (firstSound key bucket inFirst).located
          have there := (secondSound key other inSecond).located
          rw [here] at there
          simp only [countOf, inFirst, inSecond] at count
          cases bucket
          cases other
          simp_all

end BucketTable

namespace Tally

variable {tally : Tally} {weight : String → Nat} {key : String}

/-- The total of a tally is the sum of its breakdown. -/
def Balanced (tally : Tally) : Prop :=
  tally.total = tally.buckets.sum

/-- What an atlas keeps true of a tally. -/
structure Sound (tally : Tally) : Prop where
  balanced : tally.Balanced
  buckets : tally.buckets.Sound

theorem sound_empty : empty.Sound where
  balanced := by simp [Balanced, empty, BucketTable.sum_eq_weigh]
  buckets := BucketTable.sound_empty

/-- A balanced tally is determined by its breakdown. -/
theorem Balanced.eq_of_buckets_eq {other : Tally} (balanced : tally.Balanced)
    (otherBalanced : other.Balanced) (same : tally.buckets = other.buckets) : tally = other := by
  rw [Balanced] at balanced otherBalanced
  cases tally
  cases other
  simp_all

theorem Balanced.add (balanced : tally.Balanced) (key : String) (location : Location)
    (amount : Nat) : (tally.add key location amount).Balanced := by
  rw [Balanced, BucketTable.sum_eq_weigh] at *
  simp [Tally.add, BucketTable.weigh_add, balanced]

theorem Balanced.countOf_eq_zero (balanced : tally.Balanced)
    (idle : tally.isEmpty = true) (key : String) : tally.buckets.countOf key = 0 := by
  have bound := tally.buckets.countOf_le_sum key
  have nothing : tally.total = 0 := by simpa [isEmpty] using idle
  rw [Balanced] at balanced
  omega

/-- A sound tally without requests is the empty one: it keeps no bucket that counts nothing. -/
theorem Sound.eq_empty (sound : tally.Sound) (nothing : ∀ key, tally.buckets.countOf key = 0) :
    tally = empty := by
  apply sound.balanced.eq_of_buckets_eq sound_empty.balanced
  apply Std.ExtTreeMap.ext_getElem?
  intro key
  exact sound.buckets.getElem?_eq sound_empty.buckets ((nothing key).trans rfl)

theorem Sound.add (sound : tally.Sound) {location : Location} {amount : Nat}
    (positive : 0 < amount) (located : Bucket.representative key = .ok location) :
    (tally.add key location amount).Sound where
  balanced := sound.balanced.add key location amount
  buckets := sound.buckets.add positive located

theorem remove_snd (tally : Tally) (key : String) (amount : Nat) :
    (tally.remove key amount).2 = min amount (tally.buckets.countOf key) := by
  cases present : tally.buckets[key]? <;> simp [remove, BucketTable.countOf, present]

theorem remove_fst_total (tally : Tally) (key : String) (amount : Nat) :
    (tally.remove key amount).1.total = tally.total - (tally.remove key amount).2 := by
  cases present : tally.buckets[key]? <;> simp [remove, present]

/-- A removal takes the weight of the key off for every request that it takes. -/
theorem weigh_remove (weight : String → Nat) (tally : Tally) (key : String) (amount : Nat) :
    (tally.remove key amount).1.buckets.weigh weight + weight key * (tally.remove key amount).2 =
      tally.buckets.weigh weight := by
  cases present : tally.buckets[key]? with
  | none => simp [remove, present]
  | some bucket =>
      have split : weight key * bucket.count =
          weight key * (bucket.count - min amount bucket.count) +
            weight key * min amount bucket.count := by
        rw [← Nat.mul_add]
        congr 1
        omega
      simp only [remove, present, BucketTable.weigh]
      by_cases emptied : bucket.count - min amount bucket.count = 0
      · have erased := Table.sum_erase
          (fun key (bucket : Bucket) => weight key * bucket.count) tally.buckets key
        simp only [Table.measureAt, present] at erased
        rw [if_pos emptied]
        rw [emptied, Nat.mul_zero, Nat.zero_add] at split
        omega
      · have inserted := Table.sum_insert_of_present
          (fun key (bucket : Bucket) => weight key * bucket.count) present
          { bucket with count := bucket.count - min amount bucket.count }
        rw [if_neg emptied]
        simp only at inserted ⊢
        omega

theorem Balanced.remove (balanced : tally.Balanced) (key : String) (amount : Nat) :
    (tally.remove key amount).1.Balanced := by
  have weighed := weigh_remove (fun _ => 1) tally key amount
  rw [Balanced, BucketTable.sum_eq_weigh] at *
  rw [remove_fst_total]
  omega

theorem Sound.remove (sound : tally.Sound) (key : String) (amount : Nat) :
    (tally.remove key amount).1.Sound where
  balanced := sound.balanced.remove key amount
  buckets := by
    cases present : tally.buckets[key]? with
    | none => simpa [Tally.remove, present] using sound.buckets
    | some bucket =>
        simp only [Tally.remove, present]
        split
        · exact sound.buckets.erase key
        · exact sound.buckets.insert ⟨by simp only; omega,
            (sound.buckets key bucket present).located⟩

/-! ## Absorbing a table -/

theorem weigh_addEach (weight : String → Nat) (entries : List (String × Bucket))
    (tally : Tally) : (tally.addEach entries).buckets.weigh weight =
      tally.buckets.weigh weight + (entries.map fun entry => weight entry.1 * entry.2.count).sum :=
    by
  induction entries generalizing tally with
  | nil => simp
  | cons entry entries induction =>
      rw [addEach_cons, induction, buckets_add, BucketTable.weigh_add, List.map_cons,
        List.sum_cons, Nat.add_assoc]

theorem weigh_absorb (weight : String → Nat) (tally : Tally) (buckets : BucketTable) :
    (tally.absorb buckets).buckets.weigh weight =
      tally.buckets.weigh weight + buckets.weigh weight :=
  weigh_addEach weight buckets.toList tally

theorem countOf_absorb (tally : Tally) (buckets : BucketTable) (key : String) :
    (tally.absorb buckets).buckets.countOf key =
      tally.buckets.countOf key + buckets.countOf key := by
  simp only [BucketTable.countOf_eq_weigh, weigh_absorb]

theorem total_absorb (tally : Tally) (buckets : BucketTable) :
    (tally.absorb buckets).total = tally.total + buckets.sum :=
  tally.total_addEach buckets.toList

theorem Balanced.addEach (balanced : tally.Balanced) (entries : List (String × Bucket)) :
    (tally.addEach entries).Balanced :=
  List.foldlRecOn (motive := Balanced) entries _ balanced fun _ kept entry _ =>
    kept.add entry.1 entry.2.location entry.2.count

theorem Balanced.absorb (balanced : tally.Balanced) (buckets : BucketTable) :
    (tally.absorb buckets).Balanced :=
  balanced.addEach buckets.toList

theorem Sound.absorb (sound : tally.Sound) {buckets : BucketTable} (absorbed : buckets.Sound) :
    (tally.absorb buckets).Sound := by
  have entriesSound : ∀ entry ∈ buckets.toList, entry.2.Sound entry.1 := fun entry member =>
    absorbed entry.1 entry.2 (Std.ExtTreeMap.mem_toList_iff_getElem?_eq_some.mp member)
  rw [Tally.absorb]
  generalize buckets.toList = entries at entriesSound
  induction entries generalizing tally with
  | nil => exact sound
  | cons entry entries induction =>
      have head := entriesSound entry List.mem_cons_self
      exact induction (sound.add head.positive head.located)
        fun other member => entriesSound other (List.mem_cons_of_mem _ member)

/-- A tally that absorbs a table of other keys holds the buckets of both. -/
theorem Sound.getElem?_absorb (sound : tally.Sound) {buckets : BucketTable}
    (absorbed : buckets.Sound)
    (apart : ∀ key : String, tally.buckets[key]? = none ∨ buckets[key]? = none) (key : String) :
    (tally.absorb buckets).buckets[key]? = (tally.buckets[key]?).or buckets[key]? := by
  have count := countOf_absorb tally buckets key
  rcases apart key with absent | absent
  · rw [absent, Option.none_or]
    refine (sound.absorb absorbed).buckets.getElem?_eq absorbed ?_
    rw [count, BucketTable.countOf_of_absent absent, Nat.zero_add]
  · rw [absent, Option.or_none]
    refine (sound.absorb absorbed).buckets.getElem?_eq sound.buckets ?_
    rw [count, BucketTable.countOf_of_absent absent, Nat.add_zero]

end Tally

end LoadAtlas
