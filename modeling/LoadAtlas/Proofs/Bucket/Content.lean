import LoadAtlas.Bucket.Tally
import LoadAtlas.Proofs.Table.Lookup
import Mathlib.Data.List.Nodup

/-!
# What buckets hold

A tally is looked at one bucket at a time.  An addition joins what is given to the bucket of its
key, and a removal takes from it; all other buckets stay as they are.  Of several additions with
distinct keys, each bucket sees its own one only.
-/

namespace LoadAtlas

namespace Bucket

/-- A bucket with the requests of another one added; it stays where it is. -/
def join (bucket given : Bucket) : Bucket :=
  { bucket with count := bucket.count + given.count }

/-- A bucket with some requests taken out, or none if that leaves nothing. -/
def without (amount : Nat) (bucket : Bucket) : Option Bucket :=
  if bucket.count ≤ amount then none else some { bucket with count := bucket.count - amount }

theorem exists_merge_join (bucket : Bucket) (given : Option Bucket) :
    ∃ joined, Option.merge join (some bucket) given = some joined ∧
      joined.location = bucket.location := by
  cases given <;> exact ⟨_, rfl, rfl⟩

end Bucket

theorem BucketTable.getElem?_add (buckets : BucketTable) (key : String) (location : Location)
    (amount : Nat) (other : String) : (buckets.add key location amount)[other]? =
      Option.merge Bucket.join buckets[other]?
        (if key = other then some ⟨location, amount⟩ else none) := by
  by_cases same : key = other
  · subst same
    cases present : buckets[key]? <;> simp [add, present, Bucket.join]
  · cases present : buckets[key]? <;>
      simp [add, present, Std.ExtTreeMap.getElem?_insert, same]

namespace Tally

variable {tally : Tally} {key other : String} {bucket : Bucket}

@[simp]
theorem total_add (tally : Tally) (key : String) (location : Location) (amount : Nat) :
    (tally.add key location amount).total = tally.total + amount :=
  rfl

@[simp]
theorem buckets_add (tally : Tally) (key : String) (location : Location) (amount : Nat) :
    (tally.add key location amount).buckets = tally.buckets.add key location amount :=
  rfl

theorem getElem?_remove (tally : Tally) (key : String) (amount : Nat) (other : String) :
    (tally.remove key amount).1.buckets[other]? =
      if key = other then tally.buckets[other]?.bind (Bucket.without amount)
      else tally.buckets[other]? := by
  cases present : tally.buckets[key]? with
  | none =>
      by_cases same : key = other
      · subst same
        simp [remove, present]
      · simp [remove, present, same]
  | some bucket =>
      by_cases emptied : bucket.count ≤ amount
      · have nothing : bucket.count - min amount bucket.count = 0 := by omega
        by_cases same : key = other
        · subst same
          simp [remove, present, Bucket.without, emptied]
        · simp [remove, present, nothing, same, Std.ExtTreeMap.getElem?_erase]
      · have rest : bucket.count - min amount bucket.count = bucket.count - amount := by omega
        have something : bucket.count - amount ≠ 0 := by omega
        by_cases same : key = other
        · subst same
          simp [remove, present, rest, something, Bucket.without, emptied]
        · simp [remove, present, rest, something, Std.ExtTreeMap.getElem?_insert, same]

/-- An addition makes up one bucket at most and moves none. -/
theorem getElem?_of_add {location : Location} {amount : Nat}
    (held : (tally.add key location amount).buckets[other]? = some bucket) :
    bucket.location = location ∨
      ∃ old : Bucket, tally.buckets[other]? = some old ∧ bucket.location = old.location := by
  rw [buckets_add, BucketTable.getElem?_add] at held
  cases present : tally.buckets[other]? with
  | none =>
      rw [present, Option.merge_none_left] at held
      split at held
      · exact .inl (Option.some.inj held ▸ rfl)
      · cases held
  | some old =>
      rw [present] at held
      obtain ⟨joined, merged, same⟩ := old.exists_merge_join
        (if key = other then some ⟨location, amount⟩ else none)
      rw [merged] at held
      exact .inr ⟨old, rfl, Option.some.inj held ▸ same⟩

/-- A removal makes up no bucket and moves none. -/
theorem getElem?_of_remove {amount : Nat}
    (held : (tally.remove key amount).1.buckets[other]? = some bucket) :
    ∃ old : Bucket, tally.buckets[other]? = some old ∧ bucket.location = old.location := by
  rw [getElem?_remove] at held
  split at held
  · obtain ⟨old, present, left⟩ := Option.bind_eq_some_iff.mp held
    refine ⟨old, present, ?_⟩
    rw [Bucket.without] at left
    split at left
    · cases left
    · exact Option.some.inj left ▸ rfl
  · exact ⟨bucket, held, rfl⟩

/-! ## One addition after the other -/

def addEach (tally : Tally) (entries : List (String × Bucket)) : Tally :=
  entries.foldl (fun tally entry => tally.add entry.1 entry.2.location entry.2.count) tally

@[simp]
theorem addEach_nil (tally : Tally) : tally.addEach [] = tally :=
  rfl

@[simp]
theorem addEach_cons (tally : Tally) (entry : String × Bucket)
    (entries : List (String × Bucket)) : tally.addEach (entry :: entries) =
      (tally.add entry.1 entry.2.location entry.2.count).addEach entries :=
  rfl

theorem total_addEach (tally : Tally) (entries : List (String × Bucket)) :
    (tally.addEach entries).total =
      tally.total + (entries.map fun entry => entry.2.count).sum := by
  induction entries generalizing tally with
  | nil => simp
  | cons entry entries induction =>
      rw [addEach_cons, induction, total_add, List.map_cons, List.sum_cons, Nat.add_assoc]

/-- Every entry is joined to its bucket, as long as no key comes twice. -/
theorem getElem?_addEach (tally : Tally) {entries : List (String × Bucket)}
    (distinct : (entries.map Prod.fst).Nodup) (key : String) :
    (tally.addEach entries).buckets[key]? =
      Option.merge Bucket.join tally.buckets[key]? (entries.lookup key) := by
  induction entries generalizing tally with
  | nil => simp
  | cons entry entries induction =>
      obtain ⟨other, bucket⟩ := entry
      obtain ⟨fresh, distinct⟩ := List.nodup_cons.mp distinct
      rw [addEach_cons, induction _ distinct, buckets_add, BucketTable.getElem?_add,
        List.lookup_cons]
      by_cases same : other = key
      · subst same
        simp [Table.lookup_eq_none fresh]
      · have apart : (key == other) = false := by simpa using Ne.symm same
        simp [same, apart]

theorem getElem?_addEach_of_perm (tally : Tally) {entries : List (String × Bucket)}
    {table : BucketTable} (listed : entries.Perm table.toList) (key : String) :
    (tally.addEach entries).buckets[key]? =
      Option.merge Bucket.join tally.buckets[key]? table[key]? := by
  have distinct : (entries.map Prod.fst).Nodup :=
    (listed.map Prod.fst).nodup_iff.mpr (Table.nodup_map_fst_toList table)
  rw [tally.getElem?_addEach distinct, Table.lookup_eq_getElem? listed]

theorem getElem?_absorb (tally : Tally) (table : BucketTable) (key : String) :
    (tally.absorb table).buckets[key]? =
      Option.merge Bucket.join tally.buckets[key]? table[key]? :=
  tally.getElem?_addEach_of_perm (.refl _) key

end Tally

end LoadAtlas
