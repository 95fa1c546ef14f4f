import LoadAtlas.Basic
import Std.Data.ExtTreeMap.Lemmas

/-!
# Tallies

A tally is a number of requests together with its breakdown by bucket.  The leaves of a forest
and the windows of a tracker are tallies; requests are added, taken away one bucket at a time,
or taken away as a whole expired tally.

The breakdown is a map with sorted keys, so its order never depends on how it came about.
-/

namespace LoadAtlas

/-- The requests in one bucket: where they are and how many. -/
structure Bucket where
  location : Location
  count : Nat
  deriving BEq, Inhabited

/-- Buckets by their keys, in the order of the keys. -/
abbrev BucketTable := Std.ExtTreeMap String Bucket

/-- A bucket together with its key, as reports list it. -/
structure BucketCount where
  key : String
  location : Location
  count : Nat
  deriving Inhabited

def BucketTable.sum (buckets : BucketTable) : Nat :=
  (buckets.toList.map fun entry => entry.2.count).sum

/-- The number of requests in the bucket with a key; a bucket that is not there holds none. -/
def BucketTable.countOf (buckets : BucketTable) (key : String) : Nat :=
  match buckets[key]? with
  | some bucket => bucket.count
  | none => 0

/-- The table with more requests in one bucket.  A bucket keeps the location that it was
created with. -/
def BucketTable.add (buckets : BucketTable) (key : String) (location : Location)
    (amount : Nat) : BucketTable :=
  let bucket := match buckets[key]? with
    | some bucket => { bucket with count := bucket.count + amount }
    | none => ⟨location, amount⟩
  buckets.insert key bucket

/-- A number of requests and its breakdown by bucket. -/
structure Tally where
  total : Nat := 0
  buckets : BucketTable := ∅
  deriving Inhabited

namespace Tally

def empty : Tally :=
  {}

/-- Two tallies are alike if their totals and breakdowns are, locations being compared as
doubles. -/
instance : BEq Tally where
  beq first second := first.total == second.total && first.buckets == second.buckets

def add (tally : Tally) (key : String) (location : Location) (amount : Nat) : Tally where
  total := tally.total + amount
  buckets := tally.buckets.add key location amount

/-- Takes up to `amount` requests out of one bucket and tells how many there were to take.  A
bucket left empty is dropped. -/
def remove (tally : Tally) (key : String) (amount : Nat) : Tally × Nat :=
  match tally.buckets[key]? with
  | none => (tally, 0)
  | some bucket =>
      let removed := min amount bucket.count
      let rest := bucket.count - removed
      let buckets := if rest = 0 then tally.buckets.erase key
        else tally.buckets.insert key { bucket with count := rest }
      ({ total := tally.total - removed, buckets }, removed)

def absorb (tally : Tally) (buckets : BucketTable) : Tally :=
  buckets.toList.foldl (fun tally entry => tally.add entry.1 entry.2.location entry.2.count) tally

def ofTable (buckets : BucketTable) : Tally :=
  empty.absorb buckets

/-- The breakdown after the requests of one expired bucket left.  A bucket left empty is
dropped, and a bucket that is not there stays away. -/
def expireBucket (buckets : BucketTable) (key : String) (expired : Nat) : BucketTable :=
  match buckets[key]? with
  | none => buckets
  | some bucket =>
      if bucket.count ≤ expired then buckets.erase key
      else buckets.insert key { bucket with count := bucket.count - expired }

/-- The tally without what another one holds.  Neither the total nor a bucket goes below zero,
each on its own account. -/
def subtract (tally expired : Tally) : Tally where
  total := tally.total - expired.total
  buckets := expired.buckets.toList.foldl
    (fun buckets entry => expireBucket buckets entry.1 entry.2.count) tally.buckets

/-- Whether the total is zero. -/
def isEmpty (tally : Tally) : Bool :=
  tally.total = 0

def byKey (tally : Tally) : List BucketCount :=
  tally.buckets.toList.map fun entry => ⟨entry.1, entry.2.location, entry.2.count⟩

/-- The breakdown with the busiest bucket first; equally busy ones follow their keys. -/
def busiestFirst (tally : Tally) : List BucketCount :=
  tally.byKey.mergeSort fun first second => second.count ≤ first.count

end Tally
end LoadAtlas
