import LoadAtlas.Json.Tree
import LoadAtlas.Proofs.Json.Gauge

/-!
# Records of words read back

A record of words is read from an object that gives all of them by name, in any order and among
any other members, or from a list of them in their own order.  Otherwise the first name that was
there before is refused, or else the first one in the record's order that is missing.  What is
written is one of these objects.
-/

namespace LoadAtlas
namespace Json

variable {σ : Type}

/-! ## Reading an object -/

section Object

variable {record : Record σ} {gauges : List (Gauge σ)} (gauged : Gauged record gauges)
variable {members : List (String × Value)}

include gauged

theorem Gauged.reads : ∀ slot ∈ record.slots, slot.Reads := by
  rw [gauged.slots, List.forall_mem_map]
  exact fun gauge _ => gauge.reads_slot

theorem Gauged.names : record.names = gauges.map Gauge.name := by
  simp [Record.names, gauged.slots, Gauge.slot, Slot.of]

theorem Gauged.find?_slots (name : String) :
    record.slots.find? (fun slot => slot.name = name) =
      (gauges.find? fun gauge => gauge.name = name).map Gauge.slot := by
  rw [gauged.slots]
  exact List.find?_map

theorem Gauged.find?_gauge {gauge : Gauge σ} (listed : gauge ∈ gauges) :
    gauges.find? (fun other => other.name = gauge.name) = some gauge := by
  have some : (gauges.find? fun other => other.name = gauge.name).isSome = true :=
    List.find?_isSome.mpr ⟨gauge, listed, by simp⟩
  obtain ⟨found, same⟩ := Option.isSome_iff_exists.mp some
  rw [same, gauged.eq_of_name_eq (List.mem_of_find?_eq_some same) listed]
  simpa using List.find?_some same

theorem Gauged.take_name {gauge : Gauge σ} (listed : gauge ∈ gauges) (draft : Draft σ)
    (value : Value) : record.take draft (gauge.name, value) =
      if gauge.name ∈ draft.filled then .error (.misfit (.duplicateField gauge.name))
      else
        (gauge.slot.fill draft.record value.tokens).map fun filled =>
          ⟨gauge.name :: draft.filled, filled.1⟩ := by
  rw [Record.take, gauged.find?_slots, gauged.find?_gauge listed]
  rfl

theorem Gauged.take_reading {reading : Reading σ} (listed : reading.gauge ∈ gauges)
    {draft : Draft σ} (fresh : reading.gauge.name ∉ draft.filled) :
    record.take draft reading.member =
      .ok ⟨reading.gauge.name :: draft.filled, reading.store draft.record⟩ := by
  rw [Reading.member, wordMember, gauged.take_name listed, if_neg fresh, tokens_natural]
  rfl

theorem Gauged.take_again {name : String} (listed : name ∈ gauges.map Gauge.name)
    {draft : Draft σ} (filled : name ∈ draft.filled) (value : Value) :
    record.take draft (name, value) = .error (.misfit (.duplicateField name)) := by
  obtain ⟨gauge, member, rfl⟩ := List.mem_map.mp listed
  rw [gauged.take_name member, if_pos filled]

theorem Gauged.take_unknown {member : String × Value}
    (unknown : member.1 ∉ gauges.map Gauge.name) (draft : Draft σ) :
    record.take draft member = .ok draft := by
  have nothing : gauges.find? (fun gauge => gauge.name = member.1) = none := by
    simpa using unknown
  simp [Record.take, gauged.find?_slots, nothing, gauged.tolerant]

/-- Members with other names make no difference. -/
theorem Gauged.foldlM_known (draft : Draft σ) :
    (known gauges members).foldlM record.take draft = members.foldlM record.take draft := by
  induction members generalizing draft with
  | nil => rfl
  | cons member members induction =>
      by_cases listed : member.1 ∈ gauges.map Gauge.name
      · rw [known, List.filter_cons_of_pos (by simpa using listed), List.foldlM_cons,
          List.foldlM_cons]
        exact congrArg _ (funext induction)
      · rw [known, List.filter_cons_of_neg (by simpa using listed), List.foldlM_cons,
          gauged.take_unknown listed]
        exact induction draft

theorem Gauged.foldlM_readings {given : List (Reading σ)} {draft : Draft σ}
    (all : ∀ reading ∈ given, reading.gauge ∈ gauges)
    (distinct : (given.map fun reading => reading.gauge.name).Nodup)
    (fresh : ∀ reading ∈ given, reading.gauge.name ∉ draft.filled) :
    (given.map Reading.member).foldlM record.take draft =
      .ok ⟨(given.map fun reading => reading.gauge.name).reverse ++ draft.filled,
        given.foldl Reading.store draft.record⟩ := by
  induction given generalizing draft with
  | nil => rfl
  | cons reading given induction =>
      rw [List.forall_mem_cons] at all fresh
      rw [List.map_cons, List.nodup_cons] at distinct
      rw [List.map_cons, List.foldlM_cons, gauged.take_reading all.1 fresh.1]
      refine (induction all.2 distinct.2 fun other member => ?_).trans (by simp)
      have apart : other.gauge.name ≠ reading.gauge.name := fun same =>
        distinct.1 (same ▸ List.mem_map_of_mem member)
      exact fun filled => (List.mem_cons.mp filled).elim apart (fresh.2 other member)

theorem Gauged.complete_of_filled {draft : Draft σ}
    (all : ∀ gauge ∈ gauges, gauge.name ∈ draft.filled) :
    record.complete draft = .ok draft.record := by
  have nothing : record.names.find? (fun name => name ∉ draft.filled) = none := by
    rw [gauged.names, List.find?_eq_none, List.forall_mem_map]
    simpa using all
  rw [Record.complete, nothing]

theorem Gauged.complete_of_missing {before after : List (Gauge σ)} {gauge : Gauge σ}
    (order : gauges = before ++ gauge :: after) {draft : Draft σ}
    (early : ∀ other ∈ before, other.name ∈ draft.filled)
    (missing : gauge.name ∉ draft.filled) :
    record.complete draft = .error (.misfit (.missingField gauge.name)) := by
  have first : record.names.find? (fun name => name ∉ draft.filled) = some gauge.name := by
    rw [gauged.names, order, List.map_append, List.map_cons, List.find?_append,
      List.find?_eq_none.mpr, List.find?_cons_of_pos]
    · rfl
    · simpa using missing
    · rw [List.forall_mem_map]
      simpa using early
  rw [Record.complete, first]
  simp [gauged.strict]

end Object

/-! ## Outcomes of reading -/

section Outcomes

variable {record : Record σ} {gauges : List (Gauge σ)} (gauged : Gauged record gauges)
variable {members : List (String × Value)}

include gauged

/-- What has been read behind members whose known ones are readings. -/
theorem Gauged.foldlM_take {given : List (Reading σ)}
    (same : known gauges members = given.map Reading.member)
    (all : ∀ reading ∈ given, reading.gauge ∈ gauges)
    (distinct : ((known gauges members).map Prod.fst).Nodup) :
    members.foldlM record.take ⟨[], record.blank⟩ =
      .ok ⟨((known gauges members).map Prod.fst).reverse,
        given.foldl Reading.store record.blank⟩ := by
  have names : (known gauges members).map Prod.fst =
      given.map fun reading => reading.gauge.name := by
    rw [same, List.map_map]
    rfl
  rw [← gauged.foldlM_known, same, gauged.foldlM_readings all (names ▸ distinct) (by simp), ← same,
    names, List.append_nil]

theorem Proper.exists_foldlM_take (proper : Proper gauges members) : ∃ state,
    members.foldlM record.take ⟨[], record.blank⟩ =
      .ok ⟨((known gauges members).map Prod.fst).reverse, state⟩ := by
  obtain ⟨given, same, all⟩ := proper.exists_readings
  exact ⟨_, gauged.foldlM_take same.symm all proper.distinct⟩

/-- An object that gives the words of a state in any order gives the state. -/
theorem Gauged.ofText_of_perm {state : σ} {text : String} (fits : Fits gauges state)
    (named : IsNamed members text)
    (words : (known gauges members).Perm ((readings gauges state).map Reading.member)) :
    record.ofText text = .ok state := by
  -- the readings in the order in which the object gives them
  obtain ⟨given, same, order⟩ :=
    (congrFun₂ (List.eq_map_comp_perm Reading.member) _ (readings gauges state)).mpr words
  have names : ((known gauges members).map Prod.fst).Perm (gauges.map Gauge.name) := by
    simpa [readings, Reading.member, wordMember, Function.comp_def] using words.map Prod.fst
  have all : ∀ reading ∈ given, reading.gauge ∈ gauges := fun reading member => by
    obtain ⟨gauge, listed, rfl⟩ := List.mem_map.mp (order.mem_iff.mp member)
    exact listed
  rw [Record.ofText_of_isNamed gauged.reads named,
    gauged.foldlM_take same all (names.nodup_iff.mpr gauged.distinct)]
  refine (gauged.complete_of_filled fun gauge listed => ?_).trans ?_
  · exact List.mem_reverse.mpr (names.mem_iff.mpr (List.mem_map_of_mem listed))
  · exact congrArg _ (gauged.foldl_store fits order _)

theorem Gauged.ofText_missing {before after : List (Gauge σ)} {gauge : Gauge σ} {text : String}
    (named : IsNamed members text) (proper : Proper gauges members)
    (order : gauges = before ++ gauge :: after)
    (early : ∀ other ∈ before, other.name ∈ members.map Prod.fst)
    (missing : gauge.name ∉ members.map Prod.fst) :
    record.ofText text = .error (.misfit (.missingField gauge.name)) := by
  obtain ⟨state, taken⟩ := proper.exists_foldlM_take gauged
  rw [Record.ofText_of_isNamed gauged.reads named, taken]
  refine gauged.complete_of_missing order (fun other member => ?_) fun filled => missing ?_
  · have listed : other.name ∈ gauges.map Gauge.name :=
      List.mem_map_of_mem (order ▸ List.mem_append_left _ member)
    exact List.mem_reverse.mpr ((mem_map_known listed).mpr (early other member))
  · have listed : gauge.name ∈ gauges.map Gauge.name :=
      List.mem_map_of_mem (order ▸ List.mem_append_right _ List.mem_cons_self)
    exact (mem_map_known listed).mp (List.mem_reverse.mp filled)

theorem Gauged.ofText_duplicate {early late : List (String × Value)} {name : String}
    {value : Value} {text : String} (named : IsNamed (early ++ (name, value) :: late) text)
    (proper : Proper gauges early) (listed : name ∈ gauges.map Gauge.name)
    (again : name ∈ early.map Prod.fst) :
    record.ofText text = .error (.misfit (.duplicateField name)) := by
  obtain ⟨state, taken⟩ := proper.exists_foldlM_take gauged
  have refused : record.take ⟨((known gauges early).map Prod.fst).reverse, state⟩ (name, value) =
      .error (.misfit (.duplicateField name)) :=
    gauged.take_again listed (List.mem_reverse.mpr ((mem_map_known listed).mpr again)) value
  rw [Record.ofText_of_isNamed gauged.reads named, List.foldlM_append, taken]
  simp [bind, Except.bind, refused]

end Outcomes

/-! ## Reading a list -/

section Items

variable {record : Record σ} {given : List (Reading σ)}

/-- The words behind the first one go to the gauges that are left. -/
theorem readItems_moreItems (length : Nat) (state : σ) :
    record.readItems (length + 1) (given.map fun reading => reading.gauge.slot) state
        (moreItems (given.map Reading.word)) = .ok (given.foldl Reading.store state, []) := by
  induction given generalizing length state with
  | nil => rfl
  | cons reading given induction => exact induction (length + 1) (reading.store state)

theorem read_listTokens (slots : record.slots = given.map fun reading => reading.gauge.slot) :
    record.read (listTokens (given.map Reading.word)) =
      .ok (given.foldl Reading.store record.blank, []) := by
  cases given with
  | nil =>
      rw [List.map_nil, listTokens, Record.read, slots]
      rfl
  | cons reading given =>
      rw [List.map_cons, listTokens, Record.read, slots]
      exact readItems_moreItems 0 _

theorem Gauged.ofText_of_isList {gauges : List (Gauge σ)} (gauged : Gauged record gauges)
    {state : σ} {text : String} (fits : Fits gauges state)
    (list : IsList ((readings gauges state).map Reading.word) text) :
    record.ofText text = .ok state := by
  have slots : record.slots = (readings gauges state).map fun reading => reading.gauge.slot := by
    simp [gauged.slots, readings]
  refine Record.ofText_of_read ?_
  rw [list.tokens_eq, read_listTokens slots, gauged.foldl_store fits (.refl _)]
  rfl

end Items

/-! ## All that can be told of writing and reading -/

/-- What a reader does with what is written, and with other objects and lists that give words to
gauges. -/
structure Survives (gauges : List (Gauge σ)) (write : σ → String)
    (read : String → Except Fault σ) : Prop where
  /-- What is written is read back. -/
  written : ∀ state, Fits gauges state → read (write state) = .ok state
  /-- The words of a state may be given by name in any order, among members with any other names
  and any values. -/
  object : ∀ state members text, Fits gauges state → IsNamed members text →
    (known gauges members).Perm ((readings gauges state).map Reading.member) →
      read text = .ok state
  /-- Or they are listed, in the order of the gauges. -/
  list : ∀ state text, Fits gauges state →
    IsList ((readings gauges state).map Reading.word) text → read text = .ok state
  /-- If words are missing, but no gauge is there twice, the first one missing is named. -/
  missing : ∀ members text before gauge after, IsNamed members text → Proper gauges members →
    gauges = before ++ gauge :: after →
    (∀ other ∈ before, other.name ∈ members.map Prod.fst) →
    gauge.name ∉ members.map Prod.fst →
      read text = .error (.misfit (.missingField gauge.name))
  /-- If a gauge is there twice, there is a first name of a gauge that was there before. -/
  twice : ∀ members,
    (∀ member ∈ known gauges members, ∃ word : UInt64, member.2 = .natural word.toNat) →
    ¬ ((known gauges members).map Prod.fst).Nodup → ∃ early name value late,
      members = early ++ (name, value) :: late ∧ Proper gauges early ∧
        name ∈ gauges.map Gauge.name ∧ name ∈ early.map Prod.fst
  /-- It is refused for that, whatever its value is and whatever stands behind it. -/
  duplicate : ∀ early name value late text, IsNamed (early ++ (name, value) :: late) text →
    Proper gauges early → name ∈ gauges.map Gauge.name → name ∈ early.map Prod.fst →
      read text = .error (.misfit (.duplicateField name))
  /-- There are such texts. -/
  texts : (∀ members, ∃ text, IsNamed members text) ∧ ∀ words, ∃ text, IsList words text

/-- The object of all words of a state is one that gives them by name. -/
theorem isNamed_readings {gauges : List (Gauge σ)} {state : σ} (fits : Fits gauges state) :
    IsNamed ((readings gauges state).map Reading.member)
      (Tree.object (gauges.map fun gauge => (gauge.name, .natural (gauge.get state)))).render := by
  have same : (readings gauges state).map Reading.member =
      (gauges.map fun gauge => (gauge.name, gauge.get state)).map fun pair =>
        (pair.1, .natural pair.2) := by
    simp only [readings, List.map_map]
    exact List.map_congr_left fun gauge listed => congrArg (fun number =>
      (gauge.name, Value.natural number)) (UInt64.toNat_ofNat_of_lt (fits gauge listed))
  rw [same]
  simpa [Function.comp_def] using
    isNamed_render (gauges.map fun gauge => (gauge.name, gauge.get state))

theorem Gauged.survives {record : Record σ} {gauges : List (Gauge σ)}
    (gauged : Gauged record gauges) {tree : σ → Tree}
    (written : ∀ state, tree state =
      .object (gauges.map fun gauge => (gauge.name, .natural (gauge.get state)))) :
    Survives gauges (fun state => (tree state).render) record.ofText where
  written state fits := by
    have named := isNamed_readings fits
    rw [← written] at named
    refine gauged.ofText_of_perm fits named (.of_eq ?_)
    refine List.filter_eq_self.mpr ?_
    simp only [readings, List.map_map, List.forall_mem_map]
    exact fun gauge listed => decide_eq_true (List.mem_map_of_mem listed)
  object _ _ _ fits named words := gauged.ofText_of_perm fits named words
  list _ _ fits list := gauged.ofText_of_isList fits list
  missing _ _ _ _ _ named proper order early missing :=
    gauged.ofText_missing named proper order early missing
  twice _ := exists_of_not_distinct
  duplicate _ _ _ _ _ named proper listed again :=
    gauged.ofText_duplicate named proper listed again
  texts := ⟨exists_isNamed, exists_isList⟩

end Json
end LoadAtlas
