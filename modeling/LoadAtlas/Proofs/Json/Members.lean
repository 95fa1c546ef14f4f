import LoadAtlas.Json.Record
import LoadAtlas.Proofs.Json.Past

/-!
# Reading objects member by member

A record whose slots read exactly the values given to them is read from an object by one step for
each of its members, whatever the values of unknown names are.
-/

namespace LoadAtlas
namespace Json

variable {σ α : Type}

/-! ## Readers of values -/

/-- A reader takes exactly the tokens of a value, or refuses them, whatever stands behind them. -/
def Exact (read : Reader α) : Prop :=
  ∀ (value : Value) rest, read (value.tokens ++ rest) =
    (read value.tokens).map fun taken => (taken.1, rest)

def Slot.Reads (slot : Slot σ) : Prop :=
  ∀ state, Exact (slot.fill state)

/-- A word is read from the only token of a value, or refused at the first one. -/
theorem exact_readWord (expected : String) : Exact (readWord expected) := by
  intro value rest
  cases value with
  | null => rfl
  | boolean value => rfl
  | number numeral sound =>
      simp only [Value.tokens]
      rcases numeral.value with fault | (word | magnitude | float) <;> rfl
  | text quoted => rfl
  | list items => cases items <;> rfl
  | object members => cases members <;> rfl

theorem exact_readNatural (expected : String) : Exact (readNatural expected) := by
  intro value rest
  simp only [readNatural, exact_readWord expected value rest, bind, Except.bind]
  cases readWord expected value.tokens <;> rfl

theorem Exact.reads_slot {read : Reader α} (exactly : Exact read) (name : String)
    (put : σ → α → σ) : (Slot.of name read put).Reads := by
  intro state value rest
  simp only [Slot.of, exactly value rest, bind, Except.bind]
  cases read value.tokens <;> rfl

/-! ## Reading an object -/

namespace Record

variable (record : Record σ)

/-- The draft behind one more member. -/
def take (draft : Draft σ) (member : String × Value) : Except Fault (Draft σ) :=
  match record.slots.find? fun slot => slot.name = member.1 with
  | some slot =>
      if member.1 ∈ draft.filled then .error (.misfit (.duplicateField member.1))
      else
        (slot.fill draft.record member.2.tokens).map fun filled =>
          ⟨member.1 :: draft.filled, filled.1⟩
  | none =>
      if record.closed then .error (.misfit (.unknownField member.1 record.names))
      else .ok draft

variable {record} (reads : ∀ slot ∈ record.slots, slot.Reads)

include reads

theorem readMember_tokens (draft : Draft σ) (name : String) (value : Value)
    (rest : List Token) :
    record.readMember draft name (.colon :: (value.tokens ++ rest)) =
      (record.take draft (name, value)).map fun draft => (draft, rest) := by
  rw [readMember, take]
  cases known : record.slots.find? fun slot => slot.name = name with
  | none =>
      simp only [takeColon, value.pastValue_append, bind, Except.bind]
      split <;> rfl
  | some slot =>
      have exactly := reads slot (List.mem_of_find?_eq_some known) draft.record value rest
      simp only [takeColon, exactly, bind, Except.bind]
      split
      · rfl
      · cases slot.fill draft.record value.tokens <;> rfl

theorem readMembers_moreEntries {members : List (String × Value)} (draft : Draft σ) {fuel : Nat}
    (enough : members.length < fuel) :
    record.readMembers fuel draft (moreEntries .closeObject (members.map namedEntry)) =
      (members.foldlM record.take draft).map fun draft => (draft, []) := by
  induction members generalizing draft fuel with
  | nil =>
      obtain ⟨fuel, rfl⟩ := Nat.exists_eq_add_one_of_ne_zero (Nat.ne_zero_of_lt enough)
      rfl
  | cons member members induction =>
      obtain ⟨fuel, rfl⟩ := Nat.exists_eq_add_one_of_ne_zero (Nat.ne_zero_of_lt enough)
      have shorter : members.length < fuel := Nat.lt_of_succ_lt_succ enough
      simp only [List.map_cons, moreEntries, namedEntry, List.cons_append, readMembers,
        takeNextName, Token.quoted, Except.map, bind, Except.bind, readMember_tokens reads,
        List.foldlM_cons]
      cases taken : record.take draft member with
      | error fault => rfl
      | ok next => exact induction next shorter

omit reads in
/-- There is fuel enough for all members: each of them has a token. -/
theorem length_le_moreEntries (closing : Token) (entries : List (List Token)) :
    entries.length ≤ (moreEntries closing entries).length := by
  induction entries with
  | nil => exact Nat.zero_le _
  | cons entry entries induction =>
      simp only [moreEntries, List.length_cons, List.length_append]
      omega

theorem read_namedTokens (members : List (String × Value)) :
    record.read (namedTokens members) =
      ((members.foldlM record.take ⟨[], record.blank⟩).bind record.complete).map fun state =>
        (state, []) := by
  cases members with
  | nil =>
      simp only [namedTokens, List.map_nil, enclosed, read, readObject, bind, Except.bind,
        List.foldlM_nil, pure, Except.pure]
      cases record.complete ⟨[], record.blank⟩ <;> rfl
  | cons member members =>
      have enough := Nat.lt_succ_of_le
        (length_le_moreEntries .closeObject (members.map namedEntry))
      rw [List.length_map] at enough
      simp only [namedTokens, List.map_cons, enclosed, namedEntry, List.cons_append, read,
        readObject, Token.quoted, bind, Except.bind, readMember_tokens reads, List.foldlM_cons]
      cases taken : record.take ⟨[], record.blank⟩ member with
      | error fault => rfl
      | ok draft =>
          simp only [Except.map, readMembers_moreEntries reads draft enough]
          cases members.foldlM record.take draft with
          | error fault => rfl
          | ok last => cases record.complete last <;> rfl

omit reads in
/-- Nothing is behind what was read. -/
theorem ofText_of_read {text : String} {outcome : Except Fault σ}
    (read : record.read (tokens text) = outcome.map fun state => (state, [])) :
    record.ofText text = outcome := by
  simp only [ofText, read, bind, Except.bind]
  cases outcome <;> rfl

/-- An object is read by one step for each member, and then looked at as a whole. -/
theorem ofText_of_isNamed {members : List (String × Value)} {text : String}
    (named : IsNamed members text) : record.ofText text =
      (members.foldlM record.take ⟨[], record.blank⟩).bind record.complete :=
  ofText_of_read (named.tokens_eq ▸ read_namedTokens reads members)

end Record

end Json
end LoadAtlas
