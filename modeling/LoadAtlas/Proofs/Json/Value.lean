import LoadAtlas.Json.Tree
import LoadAtlas.Proofs.Json.Layout

/-!
# Values in JSON texts

A value is given by how its numbers and texts are written.  Its texts are its tokens with any
white space before, between and behind them, and each of them reads back as these tokens.
-/

namespace LoadAtlas
namespace Json

/-! ## Values -/

/-- A JSON value.  Its numbers may be out of range, halves of pairs may stand alone in its texts,
and its lists and objects may be nested to any depth. -/
inductive Value
  | null
  | boolean (value : Bool)
  | number (numeral : Numeral) (sound : numeral.Sound)
  | text (quoted : Quoted)
  | list (items : List Value)
  | object (members : List (Quoted × Value))

/-- The value of a natural number. -/
def Value.natural (number : Nat) : Value :=
  .number (.natural number) (Numeral.sound_natural number)

/-- What holds of a list or an object if it holds of the values in it holds of every value. -/
@[elab_as_elim, induction_eliminator]
theorem Value.induction {motive : Value → Prop} (null : motive .null)
    (boolean : ∀ value, motive (.boolean value))
    (number : ∀ numeral sound, motive (.number numeral sound))
    (text : ∀ quoted, motive (.text quoted))
    (list : ∀ items, (∀ item ∈ items, motive item) → motive (.list items))
    (object : ∀ members, (∀ member ∈ members, motive member.2) → motive (.object members)) :
    ∀ value, motive value
  | .null => null
  | .boolean value => boolean value
  | .number numeral sound => number numeral sound
  | .text quoted => text quoted
  | .list items => list items fun item _ =>
      Value.induction null boolean number text list object item
  | .object members => object members fun ⟨_, value⟩ _ =>
      Value.induction null boolean number text list object value
termination_by value => sizeOf value
decreasing_by
  · decreasing_trivial
  · rename_i member
    have smaller := List.sizeOf_lt_of_mem member
    simp only [Prod.mk.sizeOf_spec, Value.object.sizeOf_spec] at smaller ⊢
    omega

/-! ## Tokens of values -/

/-- The tokens of further entries of a list or an object, and its closing bracket. -/
def moreEntries (closing : Token) : List (List Token) → List Token
  | [] => [closing]
  | entry :: entries => .comma :: (entry ++ moreEntries closing entries)

/-- The tokens of the entries of a list or an object with commas between them, in brackets. -/
def enclosed (opening closing : Token) : List (List Token) → List Token
  | [] => [opening, closing]
  | entry :: entries => opening :: (entry ++ moreEntries closing entries)

mutual

def Value.tokens : Value → List Token
  | .null => [.null]
  | .boolean value => [.boolean value]
  | .number numeral _ => [.number ⟨numeral.value, .ok ()⟩]
  | .text quoted => [quoted.token]
  | .list items => enclosed .openList .closeList (itemTokens items)
  | .object members => enclosed .openObject .closeObject (memberTokens members)

def itemTokens : List Value → List (List Token)
  | [] => []
  | item :: items => item.tokens :: itemTokens items

def memberTokens : List (Quoted × Value) → List (List Token)
  | [] => []
  | (name, value) :: members => (name.token :: .colon :: value.tokens) :: memberTokens members

end

@[simp] theorem itemTokens_eq_map (items : List Value) :
    itemTokens items = items.map Value.tokens := by
  induction items with
  | nil => rfl
  | cons item items induction => rw [itemTokens, induction, List.map_cons]

@[simp] theorem memberTokens_eq_map (members : List (Quoted × Value)) :
    memberTokens members = members.map fun member =>
      member.1.token :: .colon :: member.2.tokens := by
  induction members with
  | nil => rfl
  | cons member members induction => rw [memberTokens, induction, List.map_cons]

/-- The tokens of a member whose name is a text. -/
def namedEntry (member : String × Value) : List Token :=
  .quoted member.1 :: .colon :: member.2.tokens

/-- The tokens of an object whose names are texts. -/
def namedTokens (members : List (String × Value)) : List Token :=
  enclosed .openObject .closeObject (members.map namedEntry)

/-- The text is an object with these names and values in their order. -/
def IsNamed (members : List (String × Value)) (text : String) : Prop :=
  Layout (namedTokens members) text.toList

/-! ## Words as values -/

theorem tokens_natural (word : UInt64) : (Value.natural word.toNat).tokens = [.word word] := by
  simp only [Value.natural, Value.tokens, value_natural, Token.word]

/-- The member that gives a word to a name. -/
def wordMember (pair : String × UInt64) : String × Value :=
  (pair.1, .natural pair.2.toNat)

theorem namedEntry_wordMember (pair : String × UInt64) :
    namedEntry (wordMember pair) = [.quoted pair.1, .colon, .word pair.2] := by
  rw [namedEntry, wordMember, tokens_natural]

theorem moreEntries_wordMember (pairs : List (String × UInt64)) :
    moreEntries .closeObject ((pairs.map wordMember).map namedEntry) = moreMembers pairs := by
  induction pairs with
  | nil => rfl
  | cons pair pairs induction =>
      simp only [List.map_cons, moreEntries, namedEntry_wordMember, induction, moreMembers,
        List.cons_append, List.nil_append]

/-- An object of words is an object of values. -/
theorem namedTokens_wordMember (pairs : List (String × UInt64)) :
    namedTokens (pairs.map wordMember) = objectTokens pairs := by
  cases pairs with
  | nil => rfl
  | cons pair pairs =>
      simp only [namedTokens, List.map_cons, enclosed, namedEntry_wordMember,
        moreEntries_wordMember, objectTokens, List.cons_append, List.nil_append]

variable {token : Token} {tokens : List Token} {text : List Char}

/-! ## Numbers stand apart -/

/-- The tokens of an entry do not run together with the mark behind it. -/
def Apart (entry : List Token) : Prop :=
  ∀ mark more, mark.isMark = true → Separate (mark :: more) → Separate (entry ++ mark :: more)

theorem apart_singleton (token : Token) : Apart [token] :=
  fun _ _ isMark separate => separate_cons_cons.mpr ⟨fun _ => isMark, separate⟩

theorem Apart.cons {entry : List Token} (apart : Apart entry) (noNumber : token.isNumber = false) :
    Apart (token :: entry) := by
  intro mark more isMark separate
  refine List.isChain_cons.mpr ⟨fun next _ number => ?_, apart mark more isMark separate⟩
  exact absurd (noNumber.symm.trans number) Bool.false_ne_true

theorem apart_moreEntries {closing : Token} {entries : List (List Token)} {entry : List Token}
    (closes : closing.isMark = true) (apart : ∀ entry ∈ entries, Apart entry)
    (first : Apart entry) : Apart (entry ++ moreEntries closing entries) := by
  induction entries generalizing entry with
  | nil =>
    intro mark more isMark separate
    rw [List.append_assoc]
    exact first _ _ closes (apart_singleton closing mark more isMark separate)
  | cons next entries induction =>
      rw [List.forall_mem_cons] at apart
      intro mark more isMark separate
      -- the mark behind the first entry is the comma, and the mark behind the others is `mark`
      have behind := induction apart.2 apart.1
      rw [List.append_assoc]
      exact first _ _ rfl (behind.cons rfl mark more isMark separate)

theorem apart_enclosed {opening closing : Token} {entries : List (List Token)}
    (opens : opening.isMark = true) (closes : closing.isMark = true)
    (apart : ∀ entry ∈ entries, Apart entry) : Apart (enclosed opening closing entries) := by
  have noNumber : opening.isNumber = false := by
    cases opening <;> first | rfl | cases opens
  cases entries with
  | nil => exact (apart_singleton closing).cons noNumber
  | cons entry entries =>
      rw [List.forall_mem_cons] at apart
      exact (apart_moreEntries closes apart.2 apart.1).cons noNumber

theorem Value.apart_tokens (value : Value) : Apart value.tokens := by
  induction value with
  | null => exact apart_singleton _
  | boolean value => exact apart_singleton _
  | number numeral sound => exact apart_singleton _
  | text quoted => exact apart_singleton _
  | list items induction =>
      refine apart_enclosed rfl rfl ?_
      simpa using induction
  | object members induction =>
      refine apart_enclosed rfl rfl ?_
      rw [memberTokens_eq_map, List.forall_mem_map]
      exact fun member listed => ((induction member listed).cons rfl).cons rfl

theorem separate_namedTokens (members : List (String × Value)) :
    Separate (namedTokens members) := by
  have apart : Apart (namedTokens members) := by
    refine apart_enclosed rfl rfl ?_
    rw [List.forall_mem_map]
    exact fun member _ => (member.2.apart_tokens.cons rfl).cons rfl
  exact (List.isChain_append.mp (apart .comma [] rfl (separate_singleton _))).1

theorem IsNamed.tokens_eq {members : List (String × Value)} {text : String}
    (named : IsNamed members text) : Json.tokens text = namedTokens members :=
  Layout.tokens_eq named (separate_namedTokens members)

/-! ## Objects of natural numbers are written -/

theorem layout_namedEntry (name : String) (number : Nat) (others : Layout tokens text) :
    Layout (namedEntry (name, .natural number) ++ tokens)
      (writeText name ++ ':' :: (Tree.natural number).write ++ text) := by
  have value := Layout.cons spaces_nil
    (.number (Numeral.sound_natural number) (Numeral.spelling_natural number)) others
  have colon := Layout.cons spaces_nil (.lexeme .colon) value
  have entry := Layout.cons spaces_nil
    (.lexeme (.quoted (quotation_flatMap_writeCharacter name.toList))) colon
  simpa [writeText, Tree.write, namedEntry, Value.natural, Value.tokens] using entry

theorem layout_writeMembers (pair : String × Nat) (pairs : List (String × Nat)) :
    Layout (namedEntry (pair.1, .natural pair.2) ++ moreEntries .closeObject
        (pairs.map fun pair => namedEntry (pair.1, .natural pair.2)))
      ([','].intercalate (Tree.writeMembers
        ((pair :: pairs).map fun pair => (pair.1, .natural pair.2))) ++ ['\x7d']) := by
  induction pairs generalizing pair with
  | nil =>
      have closing := Layout.cons spaces_nil (.lexeme .closeObject) (.nil spaces_nil)
      simpa [moreEntries, Tree.writeMembers] using layout_namedEntry pair.1 pair.2 closing
  | cons next pairs induction =>
      have comma := Layout.cons spaces_nil (.lexeme .comma) (induction next)
      simpa [moreEntries, Tree.writeMembers] using layout_namedEntry pair.1 pair.2 comma

/-- An object of natural numbers is written with its members in their order. -/
theorem isNamed_render (pairs : List (String × Nat)) :
    IsNamed (pairs.map fun pair => (pair.1, .natural pair.2))
      (Tree.object (pairs.map fun pair => (pair.1, .natural pair.2))).render := by
  rw [IsNamed, Tree.render, String.toList_ofList, namedTokens, List.map_map]
  cases pairs with
  | nil =>
      have closing := Layout.cons spaces_nil (.lexeme .closeObject) (.nil spaces_nil)
      exact .cons spaces_nil (.lexeme .openObject) closing
  | cons pair pairs =>
      exact .cons spaces_nil (.lexeme .openObject) (layout_writeMembers pair pairs)

/-! ## There are texts of every value -/

theorem exists_layout (written : ∀ token ∈ tokens, ∃ lexeme, Written token lexeme) :
    ∃ text, Layout tokens text := by
  induction tokens with
  | nil => exact ⟨[], .nil spaces_nil⟩
  | cons token tokens induction =>
      rw [List.forall_mem_cons] at written
      obtain ⟨lexeme, first⟩ := written.1
      obtain ⟨text, others⟩ := induction written.2
      exact ⟨_, .cons spaces_nil first others⟩

theorem Numeral.exists_spelling (numeral : Numeral) : ∃ text, numeral.Spelling text := by
  have exponent : ∃ text, ExponentSpelling numeral.exponent text := by
    rcases numeral.exponent with - | ⟨negative, digits⟩
    · exact ⟨_, .none⟩
    · cases negative with
      | false => exact ⟨_, .unsigned digits (.inl rfl)⟩
      | true => exact ⟨_, .minus digits (.inl rfl)⟩
  obtain ⟨text, exponent⟩ := exponent
  exact ⟨_, .intro exponent⟩

theorem exists_written_enclosed {opening closing : Token} {entries : List (List Token)}
    (opens : ∃ lexeme, Written opening lexeme) (closes : ∃ lexeme, Written closing lexeme)
    (written : ∀ entry ∈ entries, ∀ token ∈ entry, ∃ lexeme, Written token lexeme) :
    ∀ token ∈ enclosed opening closing entries, ∃ lexeme, Written token lexeme := by
  have more (entries : List (List Token))
      (written : ∀ entry ∈ entries, ∀ token ∈ entry, ∃ lexeme, Written token lexeme) :
      ∀ token ∈ moreEntries closing entries, ∃ lexeme, Written token lexeme := by
    induction entries with
    | nil => simpa [moreEntries] using closes
    | cons entry entries induction =>
        rw [List.forall_mem_cons] at written
        rw [moreEntries, List.forall_mem_cons, List.forall_mem_append]
        exact ⟨⟨_, .lexeme .comma⟩, written.1, induction written.2⟩
  cases entries with
  | nil => simpa [enclosed] using ⟨opens, closes⟩
  | cons entry entries =>
      rw [List.forall_mem_cons] at written
      rw [enclosed, List.forall_mem_cons, List.forall_mem_append]
      exact ⟨opens, written.1, more entries written.2⟩

theorem Value.exists_written (value : Value) :
    ∀ token ∈ value.tokens, ∃ lexeme, Written token lexeme := by
  induction value with
  | null => simpa [Value.tokens] using ⟨_, Written.null⟩
  | boolean value =>
      cases value with
      | false => simpa [Value.tokens] using ⟨_, Written.no⟩
      | true => simpa [Value.tokens] using ⟨_, Written.yes⟩
  | number numeral sound =>
      obtain ⟨text, spelling⟩ := numeral.exists_spelling
      simpa [Value.tokens] using ⟨_, Written.number sound spelling⟩
  | text quoted => simpa [Value.tokens] using ⟨_, Written.text quoted⟩
  | list items induction =>
      refine exists_written_enclosed ⟨_, .lexeme .openList⟩ ⟨_, .lexeme .closeList⟩ ?_
      simpa using induction
  | object members induction =>
      refine exists_written_enclosed ⟨_, .lexeme .openObject⟩ ⟨_, .lexeme .closeObject⟩ ?_
      rw [memberTokens_eq_map, List.forall_mem_map]
      intro member listed
      simp only [List.forall_mem_cons]
      exact ⟨⟨_, .text member.1⟩, ⟨_, .lexeme .colon⟩, induction member listed⟩

theorem exists_isNamed (members : List (String × Value)) : ∃ text, IsNamed members text := by
  have written : ∀ token ∈ namedTokens members, ∃ lexeme, Written token lexeme := by
    refine exists_written_enclosed ⟨_, .lexeme .openObject⟩ ⟨_, .lexeme .closeObject⟩ ?_
    rw [List.forall_mem_map]
    intro member _
    obtain ⟨lexeme, quoted⟩ := exists_lexeme_quoted member.1
    simp only [namedEntry, List.forall_mem_cons]
    exact ⟨⟨_, .lexeme quoted⟩, ⟨_, .lexeme .colon⟩, member.2.exists_written⟩
  obtain ⟨text, layout⟩ := exists_layout written
  exact ⟨String.ofList text, by simpa [IsNamed] using layout⟩

end Json
end LoadAtlas
