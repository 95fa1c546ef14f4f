import LoadAtlas.Bucket.Tally

/-!
# Tallies in registers

Where a tally is kept in registers of 64 bits, each of its numbers has a greatest value.  An
operation writes its registers one after the other, a bucket first and the total second.  It
stops at the first register that cannot take its new number, and what it wrote before stays
written; so a stopped operation may leave a total that is not the sum of its buckets.

As long as every number fits, the operations are those of plain tallies.
-/

namespace LoadAtlas
namespace Tally

def registerLimit : Nat :=
  2 ^ 64 - 1

/-- An operation stopped at a register, with the tally as it left it. -/
structure Stopped where
  left : Tally
  deriving Inhabited

/-- Adds requests to one bucket and then to the total. -/
def register (tally : Tally) (key : String) (location : Location) (amount : Nat) :
    Except Stopped Tally :=
  if registerLimit < tally.buckets.countOf key + amount then .error ⟨tally⟩
  else
    let buckets := tally.buckets.add key location amount
    if registerLimit < tally.total + amount then .error ⟨{ tally with buckets }⟩
    else .ok { total := tally.total + amount, buckets }

def registerAll (tally : Tally) (buckets : BucketTable) : Except Stopped Tally :=
  buckets.toList.foldlM
    (fun tally entry => tally.register entry.1 entry.2.location entry.2.count) tally

/-- Takes up to `amount` requests out of one bucket and then off the total, and tells how many
there were to take. -/
def deregister (tally : Tally) (key : String) (amount : Nat) : Except Stopped (Tally × Nat) :=
  let (rest, removed) := tally.remove key amount
  if tally.total < removed then .error ⟨{ rest with total := tally.total }⟩
  else .ok (rest, removed)

/-- Adding to a bucket is plain adding if its count and the total fit. -/
theorem register_eq_ok {tally : Tally} {key : String} {amount : Nat} (location : Location)
    (count_fits : tally.buckets.countOf key + amount ≤ registerLimit)
    (total_fits : tally.total + amount ≤ registerLimit) :
    tally.register key location amount = .ok (tally.add key location amount) := by
  simp [register, add, Nat.not_lt.mpr count_fits, Nat.not_lt.mpr total_fits]

/-- Adding that is not stopped is plain adding. -/
theorem eq_add_of_register_eq_ok {tally counted : Tally} {key : String} {location : Location}
    {amount : Nat} (done : tally.register key location amount = .ok counted) :
    counted = tally.add key location amount := by
  unfold register at done
  split at done
  · cases done
  · simp only at done
    split at done
    · cases done
    · exact (Except.ok.inj done).symm

/-- Taking out of a bucket is plain removal if the total covers what is taken. -/
theorem deregister_eq_ok {tally : Tally} {key : String} {amount : Nat}
    (covered : (tally.remove key amount).2 ≤ tally.total) :
    tally.deregister key amount = .ok (tally.remove key amount) := by
  simp [deregister, Nat.not_lt.mpr covered]

end Tally
end LoadAtlas
