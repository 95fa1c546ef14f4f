import LoadAtlas.Proofs.Json.Token

/-!
# Objects and lists of words

An object of words is a name and a word for each member; a list of words is just the words.  As
texts both come with any white space, and the names with any spelling.
-/

namespace LoadAtlas
namespace Json

/-- The tokens of further members, and the end of the object. -/
def moreMembers : List (String × UInt64) → List Token
  | [] => [.closeObject]
  | (name, value) :: pairs =>
      .comma :: .quoted name :: .colon :: .word value :: moreMembers pairs

/-- The tokens of an object with these names and words in their order. -/
def objectTokens : List (String × UInt64) → List Token
  | [] => [.openObject, .closeObject]
  | (name, value) :: pairs =>
      .openObject :: .quoted name :: .colon :: .word value :: moreMembers pairs

/-- The tokens of further items, and the end of the list. -/
def moreItems : List UInt64 → List Token
  | [] => [.closeList]
  | value :: values => .comma :: .word value :: moreItems values

/-- The tokens of a list with these words in their order. -/
def listTokens : List UInt64 → List Token
  | [] => [.openList, .closeList]
  | value :: values => .openList :: .word value :: moreItems values

/-- The text is an object with these names and words in their order. -/
def IsObject (pairs : List (String × UInt64)) (text : String) : Prop :=
  Spells (objectTokens pairs) text.toList

/-- The text is a list with these words in their order. -/
def IsList (values : List UInt64) (text : String) : Prop :=
  Spells (listTokens values) text.toList

/-! ## Words stand apart -/

theorem separate_moreMembers (pairs : List (String × UInt64)) (value : UInt64) :
    Separate (.word value :: moreMembers pairs) := by
  induction pairs generalizing value with
  | nil => simp [moreMembers, Token.isMark]
  | cons pair pairs induction =>
      simp [moreMembers, Token.isMark, Token.isNumber, Token.quoted, induction pair.2]

theorem separate_objectTokens (pairs : List (String × UInt64)) : Separate (objectTokens pairs) := by
  cases pairs with
  | nil => simp [objectTokens, Token.isMark]
  | cons pair pairs =>
      simp [objectTokens, Token.isMark, Token.isNumber, Token.quoted,
        separate_moreMembers pairs pair.2]

theorem separate_moreItems (values : List UInt64) (value : UInt64) :
    Separate (.word value :: moreItems values) := by
  induction values generalizing value with
  | nil => simp [moreItems, Token.isMark]
  | cons next values induction => simp [moreItems, Token.isMark, Token.isNumber, induction next]

theorem separate_listTokens (values : List UInt64) : Separate (listTokens values) := by
  cases values with
  | nil => simp [listTokens, Token.isMark]
  | cons value values => simp [listTokens, Token.isNumber, separate_moreItems values value]

theorem IsObject.tokens_eq {pairs : List (String × UInt64)} {text : String}
    (object : IsObject pairs text) : tokens text = objectTokens pairs :=
  Spells.tokens_eq object (separate_objectTokens pairs)

theorem IsList.tokens_eq {values : List UInt64} {text : String} (list : IsList values text) :
    tokens text = listTokens values :=
  Spells.tokens_eq list (separate_listTokens values)

/-! ## There are such texts -/

theorem exists_spells {tokens : List Token}
    (written : ∀ token ∈ tokens, ∃ lexeme, Lexeme token lexeme) :
    ∃ text : String, Spells tokens text.toList := by
  suffices ∃ text, Spells tokens text by
    obtain ⟨text, spells⟩ := this
    exact ⟨String.ofList text, by simpa using spells⟩
  induction tokens with
  | nil => exact ⟨[], .nil spaces_nil⟩
  | cons token tokens induction =>
      rw [List.forall_mem_cons] at written
      obtain ⟨lexeme, first⟩ := written.1
      obtain ⟨text, others⟩ := induction written.2
      exact ⟨_, .cons spaces_nil first others⟩

theorem exists_lexeme_quoted (name : String) : ∃ lexeme, Lexeme (.quoted name) lexeme :=
  ⟨_, .quoted (quotation_flatMap_writeCharacter name.toList)⟩

theorem exists_isObject (pairs : List (String × UInt64)) : ∃ text, IsObject pairs text := by
  have more (pairs : List (String × UInt64)) :
      ∀ token ∈ moreMembers pairs, ∃ lexeme, Lexeme token lexeme := by
    induction pairs with
    | nil => simpa [moreMembers] using ⟨_, Lexeme.closeObject⟩
    | cons pair pairs induction =>
        simp only [moreMembers, List.forall_mem_cons]
        exact ⟨⟨_, .comma⟩, exists_lexeme_quoted pair.1, ⟨_, .colon⟩, ⟨_, .word pair.2⟩, induction⟩
  refine exists_spells ?_
  cases pairs with
  | nil => simpa [objectTokens] using ⟨⟨_, Lexeme.openObject⟩, _, Lexeme.closeObject⟩
  | cons pair pairs =>
      simp only [objectTokens, List.forall_mem_cons]
      exact ⟨⟨_, .openObject⟩, exists_lexeme_quoted pair.1, ⟨_, .colon⟩, ⟨_, .word pair.2⟩,
        more pairs⟩

theorem exists_isList (values : List UInt64) : ∃ text, IsList values text := by
  have more (values : List UInt64) :
      ∀ token ∈ moreItems values, ∃ lexeme, Lexeme token lexeme := by
    induction values with
    | nil => simpa [moreItems] using ⟨_, Lexeme.closeList⟩
    | cons value values induction =>
        simp only [moreItems, List.forall_mem_cons]
        exact ⟨⟨_, .comma⟩, ⟨_, .word value⟩, induction⟩
  refine exists_spells ?_
  cases values with
  | nil => simpa [listTokens] using ⟨⟨_, Lexeme.openList⟩, _, Lexeme.closeList⟩
  | cons value values =>
      simp only [listTokens, List.forall_mem_cons]
      exact ⟨⟨_, .openList⟩, ⟨_, .word value⟩, more values⟩

end Json
end LoadAtlas
