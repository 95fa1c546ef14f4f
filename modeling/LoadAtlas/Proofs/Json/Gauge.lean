import LoadAtlas.Json.Reader
import LoadAtlas.Proofs.Json.Members
import Mathlib.Data.List.Induction
import Mathlib.Data.List.Nodup
import Mathlib.Data.List.Perm.Basic

/-!
# Records of words

A record of words has a gauge for each of them.  An object gives words to gauges by their names;
its other members are of no account.  Once every gauge has been given its word of a state, in
whatever order, the record is this state.
-/

namespace LoadAtlas
namespace Json

variable {σ : Type}

/-! ## Gauges -/

/-- A word of a record: its name, and how it is looked at and replaced. -/
structure Gauge (σ : Type) where
  name : String
  /-- What the word is called where another value stands. -/
  expected : String
  get : σ → Nat
  put : σ → Nat → σ

def Gauge.slot (gauge : Gauge σ) : Slot σ :=
  .of gauge.name (readNatural gauge.expected) gauge.put

theorem Gauge.reads_slot (gauge : Gauge σ) : gauge.slot.Reads :=
  (exact_readNatural gauge.expected).reads_slot gauge.name gauge.put

/-- The record has these gauges as its slots, needs all of them, and passes over other names. -/
structure Gauged (record : Record σ) (gauges : List (Gauge σ)) : Prop where
  slots : record.slots = gauges.map Gauge.slot
  tolerant : record.closed = false
  strict : record.lenient = false
  distinct : (gauges.map Gauge.name).Nodup
  get_put : ∀ gauge ∈ gauges, ∀ state number, gauge.get (gauge.put state number) = number
  get_put_of_ne : ∀ gauge ∈ gauges, ∀ other ∈ gauges, gauge.name ≠ other.name →
    ∀ state number, gauge.get (other.put state number) = gauge.get state
  ext : ∀ state other, (∀ gauge ∈ gauges, gauge.get state = gauge.get other) → state = other

/-- A gauge with a word. -/
structure Reading (σ : Type) where
  gauge : Gauge σ
  word : UInt64

namespace Reading

/-- The member that gives the word. -/
def member (reading : Reading σ) : String × Value :=
  wordMember (reading.gauge.name, reading.word)

/-- The state with the word in its place. -/
def store (state : σ) (reading : Reading σ) : σ :=
  reading.gauge.put state reading.word.toNat

end Reading

/-- The words of a state, in the order of the record. -/
def readings (gauges : List (Gauge σ)) (state : σ) : List (Reading σ) :=
  gauges.map fun gauge => ⟨gauge, UInt64.ofNat (gauge.get state)⟩

/-- Whether a state consists of words. -/
def Fits (gauges : List (Gauge σ)) (state : σ) : Prop :=
  ∀ gauge ∈ gauges, gauge.get state < UInt64.size

/-- The members whose names are gauges. -/
def known (gauges : List (Gauge σ)) (members : List (String × Value)) : List (String × Value) :=
  members.filter fun member => member.1 ∈ gauges.map Gauge.name

/-- The members whose names are gauges give words, and none of these names is there twice. -/
structure Proper (gauges : List (Gauge σ)) (members : List (String × Value)) : Prop where
  words : ∀ member ∈ known gauges members, ∃ word : UInt64, member.2 = .natural word.toNat
  distinct : ((known gauges members).map Prod.fst).Nodup

/-! ## Storing readings -/

section Store

variable {record : Record σ} {gauges : List (Gauge σ)} (gauged : Gauged record gauges)

include gauged

theorem Gauged.eq_of_name_eq {gauge other : Gauge σ} (member : gauge ∈ gauges)
    (member' : other ∈ gauges) (same : gauge.name = other.name) : gauge = other :=
  List.inj_on_of_nodup_map gauged.distinct member member' same

/-- A word stays as it is if no other one is stored in its place. -/
theorem Gauged.get_foldl_store_of_not_mem {given : List (Reading σ)} {gauge : Gauge σ}
    (listed : gauge ∈ gauges) (all : ∀ reading ∈ given, reading.gauge ∈ gauges)
    (absent : gauge.name ∉ given.map fun reading => reading.gauge.name) (state : σ) :
    gauge.get (given.foldl Reading.store state) = gauge.get state := by
  induction given generalizing state with
  | nil => rfl
  | cons reading given induction =>
      rw [List.forall_mem_cons] at all
      rw [List.map_cons, List.mem_cons, not_or] at absent
      rw [List.foldl_cons, induction all.2 absent.2]
      exact gauged.get_put_of_ne _ listed _ all.1 absent.1 _ _

theorem Gauged.get_foldl_store {given : List (Reading σ)} {reading : Reading σ}
    (all : ∀ reading ∈ given, reading.gauge ∈ gauges)
    (distinct : (given.map fun reading => reading.gauge.name).Nodup) (member : reading ∈ given)
    (state : σ) : reading.gauge.get (given.foldl Reading.store state) = reading.word.toNat := by
  induction given generalizing state with
  | nil => cases member
  | cons first given induction =>
      rw [List.forall_mem_cons] at all
      rw [List.map_cons, List.nodup_cons] at distinct
      rcases List.mem_cons.mp member with rfl | member
      · rw [List.foldl_cons, gauged.get_foldl_store_of_not_mem all.1 all.2 distinct.1]
        exact gauged.get_put _ all.1 _ _
      · exact induction all.2 distinct.2 member _

/-- Storing all words of a state gives the state, in whatever order they are stored. -/
theorem Gauged.foldl_store {given : List (Reading σ)} {state : σ} (fits : Fits gauges state)
    (same : given.Perm (readings gauges state)) (blank : σ) :
    given.foldl Reading.store blank = state := by
  have names : (readings gauges state).map (fun reading => reading.gauge.name) =
      gauges.map Gauge.name := by
    simp [readings]
  have distinct : (given.map fun reading => reading.gauge.name).Nodup :=
    (same.map _).nodup_iff.mpr (names ▸ gauged.distinct)
  refine gauged.ext _ _ fun gauge listed => ?_
  have given : ⟨gauge, UInt64.ofNat (gauge.get state)⟩ ∈ given :=
    same.mem_iff.mpr (List.mem_map_of_mem listed)
  refine (gauged.get_foldl_store ?_ distinct given blank).trans
    (UInt64.toNat_ofNat_of_lt (fits gauge listed))
  intro reading member
  obtain ⟨gauge, listed, rfl⟩ := List.mem_map.mp (same.mem_iff.mp member)
  exact listed

end Store

/-! ## Proper objects -/

section Proper

variable {gauges : List (Gauge σ)} {members : List (String × Value)}

theorem mem_known {member : String × Value} :
    member ∈ known gauges members ↔ member ∈ members ∧ member.1 ∈ gauges.map Gauge.name := by
  simp [known]

theorem mem_map_known {name : String} (listed : name ∈ gauges.map Gauge.name) :
    name ∈ (known gauges members).map Prod.fst ↔ name ∈ members.map Prod.fst := by
  constructor
  · intro given
    exact (List.filter_sublist.map Prod.fst).subset given
  · intro given
    obtain ⟨member, present, rfl⟩ := List.mem_map.mp given
    exact List.mem_map_of_mem (mem_known.mpr ⟨present, listed⟩)

/-- The members with known names are readings. -/
theorem Proper.exists_readings (proper : Proper gauges members) : ∃ given : List (Reading σ),
    given.map Reading.member = known gauges members ∧
      ∀ reading ∈ given, reading.gauge ∈ gauges := by
  have each (member : String × Value) (given : member ∈ known gauges members) :
      ∃ reading : Reading σ, reading.member = member ∧ reading.gauge ∈ gauges := by
    obtain ⟨gauge, listed, name⟩ := List.mem_map.mp (mem_known.mp given).2
    obtain ⟨word, value⟩ := proper.words member given
    exact ⟨⟨gauge, word⟩, Prod.ext name value.symm, listed⟩
  choose reading same listed using each
  refine ⟨(known gauges members).attach.map fun member => reading member.1 member.2, ?_, ?_⟩
  · rw [List.map_map]
    simpa [Function.comp_def, same] using List.attach_map_subtype_val (known gauges members)
  · rw [List.forall_mem_map]
    exact fun member _ => listed _ _

theorem Proper.append_singleton {last : String × Value} (proper : Proper gauges members)
    (word : last ∈ known gauges [last] → ∃ word : UInt64, last.2 = .natural word.toNat)
    (fresh : last.1 ∈ gauges.map Gauge.name → last.1 ∉ members.map Prod.fst) :
    Proper gauges (members ++ [last]) where
  words := by
    rw [known, List.filter_append, List.forall_mem_append]
    refine ⟨proper.words, fun member given => ?_⟩
    obtain rfl := List.mem_singleton.mp (List.mem_of_mem_filter given)
    exact word given
  distinct := by
    rw [known, List.filter_append, List.map_append, List.nodup_append]
    refine ⟨proper.distinct, (List.nodup_singleton _).sublist (List.filter_sublist.map _), ?_⟩
    intro name before other given
    obtain ⟨member, present, rfl⟩ := List.mem_map.mp given
    obtain ⟨only, listed⟩ := mem_known.mp present
    obtain rfl := List.mem_singleton.mp only
    rintro rfl
    exact fresh listed ((mem_map_known listed).mp before)

/-- If a known name is there twice, there is a first one that was there before. -/
theorem exists_of_not_distinct
    (words : ∀ member ∈ known gauges members, ∃ word : UInt64, member.2 = .natural word.toNat)
    (again : ¬ ((known gauges members).map Prod.fst).Nodup) : ∃ early name value late,
    members = early ++ (name, value) :: late ∧ Proper gauges early ∧
      name ∈ gauges.map Gauge.name ∧ name ∈ early.map Prod.fst := by
  -- Induction on the end of the list: either the members before the last one have such a name
  -- already, or it is the name of the last one.
  induction members using List.reverseRecOn with
  | nil => exact absurd List.nodup_nil again
  | append_singleton early last induction =>
      have each := words
      rw [known, List.filter_append, List.forall_mem_append] at each
      by_cases distinct : ((known gauges early).map Prod.fst).Nodup
      · have proper : Proper gauges early := ⟨each.1, distinct⟩
        by_cases twice : last.1 ∈ gauges.map Gauge.name ∧ last.1 ∈ early.map Prod.fst
        · exact ⟨early, last.1, last.2, [], rfl, proper, twice⟩
        · have whole := proper.append_singleton (each.2 last) fun listed before =>
            twice ⟨listed, before⟩
          exact absurd whole.distinct again
      · obtain ⟨first, name, value, late, rfl, others⟩ := induction each.1 distinct
        exact ⟨first, name, value, late ++ [last], by simp, others⟩

end Proper

end Json
end LoadAtlas
