import LoadAtlas.Json.Token
import LoadAtlas.Proofs.Json.Numeral
import LoadAtlas.Proofs.Json.Quotation
import Mathlib.Data.List.Chain

/-!
# Tokens read back

A text of tokens with white space around them reads back as these tokens.  How much white space
there is does not matter, as long as something stands between two tokens that would be read as
one: behind a number there is a bracket, a comma or a colon.
-/

namespace LoadAtlas
namespace Json

/-! ## Tokens -/

namespace Token

/-- A text between quotes. -/
def quoted (text : String) : Token :=
  .text ⟨.ok text, .ok ()⟩

/-- A numeral whose value is a word. -/
def word (value : UInt64) : Token :=
  .number ⟨.ok (.natural value), .ok ()⟩

/-- Whether a token is a bracket, a comma or a colon. -/
def isMark : Token → Bool
  | .openObject | .closeObject | .openList | .closeList | .comma | .colon => true
  | _ => false

def isNumber : Token → Bool
  | .number _ => true
  | _ => false

end Token

/-- How tokens are written.  A text between quotes may be written in several ways. -/
inductive Lexeme : Token → List Char → Prop
  | openObject : Lexeme .openObject ['\x7b']
  | closeObject : Lexeme .closeObject ['\x7d']
  | openList : Lexeme .openList ['[']
  | closeList : Lexeme .closeList [']']
  | comma : Lexeme .comma [',']
  | colon : Lexeme .colon [':']
  | quoted {text : String} {spelt : List Char} (quotation : Quotation text.toList spelt) :
      Lexeme (.quoted text) ('"' :: (spelt ++ ['"']))
  | word (value : UInt64) : Lexeme (.word value) (Nat.toDigits 10 value.toNat)

/-- A text of white space only. -/
def Spaces (text : List Char) : Prop :=
  ∀ character ∈ text, isSpace character = true

theorem spaces_nil : Spaces [] :=
  fun _ nothing => absurd nothing List.not_mem_nil

/-- The texts of tokens in their order, with any white space before, between and behind them. -/
inductive Spells : List Token → List Char → Prop
  | nil {spaces : List Char} (blank : Spaces spaces) : Spells [] spaces
  | cons {token : Token} {tokens : List Token} {spaces lexeme text : List Char}
      (blank : Spaces spaces) (first : Lexeme token lexeme) (others : Spells tokens text) :
      Spells (token :: tokens) (spaces ++ (lexeme ++ text))

/-- More white space in front makes no difference. -/
theorem Spells.after {tokens : List Token} {spaces text : List Char} (spells : Spells tokens text)
    (blank : Spaces spaces) : Spells tokens (spaces ++ text) := by
  have both {more : List Char} (others : Spaces more) : Spaces (spaces ++ more) :=
    List.forall_mem_append.mpr ⟨blank, others⟩
  cases spells with
  | nil others => exact .nil (both others)
  | cons others first rest =>
      rw [← List.append_assoc]
      exact .cons (both others) first rest

/-! ## Tokens of any values -/

/-- What stands between the quotes of a text. -/
structure Quoted where
  spelt : List Char
  formed : Formed spelt

/-- The text that is read between the quotes, unless halves of pairs stand alone. -/
def Quoted.value (quoted : Quoted) : Except Fault String :=
  (takeQuotation .reading (quoted.spelt ++ ['"'])).map fun taken => String.ofList taken.1

def Quoted.token (quoted : Quoted) : Token :=
  .text ⟨quoted.value, .ok ()⟩

/-- How the tokens of values are written: a number by its numeral, and a text by what stands
between its quotes. -/
inductive Written : Token → List Char → Prop
  | lexeme {token : Token} {text : List Char} (lexeme : Lexeme token text) : Written token text
  | null : Written .null ['n', 'u', 'l', 'l']
  | yes : Written (.boolean true) ['t', 'r', 'u', 'e']
  | no : Written (.boolean false) ['f', 'a', 'l', 's', 'e']
  | number {numeral : Numeral} {text : List Char} (sound : numeral.Sound)
      (spelling : numeral.Spelling text) : Written (.number ⟨numeral.value, .ok ()⟩) text
  | text (quoted : Quoted) : Written quoted.token ('"' :: (quoted.spelt ++ ['"']))

/-- The texts of tokens of any values, again with any white space around them. -/
inductive Layout : List Token → List Char → Prop
  | nil {spaces : List Char} (blank : Spaces spaces) : Layout [] spaces
  | cons {token : Token} {tokens : List Token} {spaces lexeme text : List Char}
      (blank : Spaces spaces) (first : Written token lexeme) (others : Layout tokens text) :
      Layout (token :: tokens) (spaces ++ (lexeme ++ text))

/-- Behind every number there is a mark, unless nothing is there. -/
def Separate (tokens : List Token) : Prop :=
  tokens.IsChain fun token next => token.isNumber = true → next.isMark = true

@[simp] theorem separate_singleton (token : Token) : Separate [token] :=
  List.isChain_singleton token

@[simp] theorem separate_cons_cons {token next : Token} {tokens : List Token} :
    Separate (token :: next :: tokens) ↔
      (token.isNumber = true → next.isMark = true) ∧ Separate (next :: tokens) :=
  List.isChain_cons_cons

/-! ## The first token -/

variable {token : Token} {tokens : List Token} {lexeme text : List Char}

theorem firstToken_quoted {name : String} {spelt : List Char}
    (quotation : Quotation name.toList spelt) (text : List Char) :
    firstToken ('"' :: (spelt ++ '"' :: text)) = some (.quoted name, text) := by
  obtain ⟨passed, passing⟩ := quotation.formed.takeQuotation_passing text
  simp [firstToken, textToken, quotation.takeQuotation_reading text, passing, Except.map,
    Token.quoted]

theorem firstToken_of_isDigit {first : Char} (isDigit : first.isDigit = true)
    (text : List Char) : firstToken (first :: text) = some (numberToken (first :: text)) := by
  -- none of the characters that begin another token is a digit
  have other {mark : Char} (noDigit : mark.isDigit = false) (rest : List Char)
      (same : first :: text = mark :: rest) : False := by
    obtain ⟨rfl, -⟩ := List.cons.inj same
    exact absurd (noDigit.symm.trans isDigit) Bool.false_ne_true
  rw [firstToken.eq_def]
  split
  case h_1 nothing => cases nothing
  case h_12 same =>
    obtain ⟨rfl, rfl⟩ := List.cons.inj same
    rw [if_pos (.inr isDigit)]
  all_goals exact (other rfl _ ‹_›).elim

/-- A numeral is the first token of a text, however it is written. -/
theorem Numeral.Sound.firstToken_append {numeral : Numeral} {spelt : List Char}
    (sound : numeral.Sound) (spelling : numeral.Spelling spelt) (ends : EndsNumeral text) :
    firstToken (spelt ++ text) = some (.number ⟨numeral.value, .ok ()⟩, text) := by
  have taken := sound.take_append spelling ends
  have first : firstToken (spelt ++ text) = some (numberToken (spelt ++ text)) := by
    obtain ⟨first, others, rfl, rfl | isDigit⟩ := sound.exists_eq_cons spelling
    · rfl
    · exact firstToken_of_isDigit isDigit _
  rw [first, numberToken, taken]

theorem firstToken_word (value : UInt64) (ends : EndsNumeral text) :
    firstToken (Nat.toDigits 10 value.toNat ++ text) = some (.word value, text) := by
  rw [Token.word, ← value_natural]
  exact (Numeral.sound_natural value.toNat).firstToken_append
    (Numeral.spelling_natural value.toNat) ends

theorem Lexeme.firstToken_append (written : Lexeme token lexeme)
    (ends : token.isNumber = true → EndsNumeral text) :
    firstToken (lexeme ++ text) = some (token, text) := by
  cases written with
  | quoted quotation =>
      rw [List.cons_append, List.append_assoc]
      exact firstToken_quoted quotation text
  | word value => exact firstToken_word value (ends rfl)
  | openObject => rfl
  | closeObject => rfl
  | openList => rfl
  | closeList => rfl
  | comma => rfl
  | colon => rfl

theorem isSpace_eq_false_of_isDigit {character : Char} (isDigit : character.isDigit = true) :
    isSpace character = false := by
  by_contra space
  simp only [isSpace, Bool.not_eq_false, Bool.or_eq_true, decide_eq_true_eq] at space
  rcases space with ((rfl | rfl) | rfl) | rfl <;> cases isDigit

/-- No token begins with white space. -/
theorem Lexeme.exists_eq_cons (written : Lexeme token lexeme) : ∃ first others,
    lexeme = first :: others ∧ isSpace first = false := by
  cases written with
  | word value =>
      obtain ⟨first, others, digits, isDigit⟩ := (digits_toDigits value.toNat).exists_eq_cons
      exact ⟨first, others, digits, isSpace_eq_false_of_isDigit isDigit⟩
  | _ => exact ⟨_, _, rfl, by decide⟩

theorem Quoted.value_eq (quoted : Quoted) (text : List Char) :
    ((takeQuotation .reading (quoted.spelt ++ '"' :: text)).map fun taken =>
      String.ofList taken.1) = quoted.value := by
  have read (taken : Except Fault (List Char × List Char)) :
      (taken.map fun taken => String.ofList taken.1) =
        (taken.map Prod.fst).map String.ofList := by
    cases taken <;> rfl
  have same := (quoted.formed.charactersRead_eq text [] (quoted.spelt ++ '"' :: text).length
    (quoted.spelt ++ ['"']).length (by simp) (by simp)).1
  rw [Quoted.value, read, read]
  exact congrArg _ same

theorem Quoted.firstToken_append (quoted : Quoted) (text : List Char) :
    firstToken ('"' :: (quoted.spelt ++ '"' :: text)) = some (quoted.token, text) := by
  obtain ⟨passed, passing⟩ := quoted.formed.takeQuotation_passing text
  simp only [firstToken, textToken, passing, quoted.value_eq, Quoted.token]

theorem Written.firstToken_append (written : Written token lexeme)
    (ends : token.isNumber = true → EndsNumeral text) :
    firstToken (lexeme ++ text) = some (token, text) := by
  cases written with
  | lexeme lexeme => exact lexeme.firstToken_append ends
  | number sound spelling => exact sound.firstToken_append spelling (ends rfl)
  | text quoted =>
      rw [List.cons_append, List.append_assoc]
      exact quoted.firstToken_append text
  | null => rfl
  | yes => rfl
  | no => rfl

/-- No token begins with white space. -/
theorem Written.exists_eq_cons (written : Written token lexeme) : ∃ first others,
    lexeme = first :: others ∧ isSpace first = false := by
  cases written with
  | lexeme lexeme => exact lexeme.exists_eq_cons
  | number sound spelling =>
      obtain ⟨first, others, rfl, rfl | isDigit⟩ := sound.exists_eq_cons spelling
      · exact ⟨_, _, rfl, by decide⟩
      · exact ⟨_, _, rfl, isSpace_eq_false_of_isDigit isDigit⟩
  | _ => exact ⟨_, _, rfl, by decide⟩

/-! ## All tokens -/

/-- White space does not go on with a numeral. -/
theorem Spaces.endsNumeral_append {spaces : List Char} (blank : Spaces spaces)
    (ends : EndsNumeral text) : EndsNumeral (spaces ++ text) := by
  cases spaces with
  | nil => exact ends
  | cons character spaces =>
      rintro _ ⟨⟩
      have first := blank character List.mem_cons_self
      simp only [isSpace, Bool.or_eq_true, decide_eq_true_eq] at first
      rcases first with ((rfl | rfl) | rfl) | rfl <;> rfl

/-- Nor does a mark. -/
theorem Lexeme.endsNumeral_append (written : Lexeme token lexeme) (isMark : token.isMark = true)
    (text : List Char) : EndsNumeral (lexeme ++ text) := by
  cases written with
  | quoted => cases isMark
  | word => cases isMark
  | _ => rintro _ ⟨⟩; rfl

theorem tokensWithin_spaces {spaces : List Char} (blank : Spaces spaces) (fuel : Nat) :
    tokensWithin fuel spaces = [] := by
  cases fuel with
  | zero => rfl
  | succ fuel =>
      have nothing : (spaces ++ []).dropWhile isSpace = [] :=
        dropWhile_append_of_stops blank (by simp)
      rw [List.append_nil] at nothing
      rw [tokensWithin, nothing]
      rfl

/-- The first token and those of the text behind it, if there is fuel enough. -/
theorem tokensWithin_append {spaces : List Char} (blank : Spaces spaces)
    (begun : ∃ first others, lexeme = first :: others ∧ isSpace first = false)
    (taken : firstToken (lexeme ++ text) = some (token, text))
    (behind : ∀ fuel, text.length ≤ fuel → tokensWithin fuel text = tokens) {fuel : Nat}
    (enough : (spaces ++ (lexeme ++ text)).length ≤ fuel) :
    tokensWithin fuel (spaces ++ (lexeme ++ text)) = token :: tokens := by
  obtain ⟨first, others, rfl, noSpace⟩ := begun
  have reached : (spaces ++ (first :: others ++ text)).dropWhile isSpace =
      first :: others ++ text :=
    dropWhile_append_of_stops blank (by simp [noSpace])
  have longer : text.length < fuel := by
    simp only [List.length_append, List.length_cons] at enough
    omega
  obtain ⟨fuel, rfl⟩ := Nat.exists_eq_add_one_of_ne_zero (Nat.ne_zero_of_lt longer)
  rw [tokensWithin, reached, taken]
  exact congrArg (token :: ·) (behind fuel (Nat.le_of_lt_succ longer))

theorem Written.endsNumeral_append (written : Written token lexeme) (isMark : token.isMark = true)
    (text : List Char) : EndsNumeral (lexeme ++ text) := by
  cases written with
  | lexeme lexeme => exact lexeme.endsNumeral_append isMark text
  | _ => cases isMark

theorem Layout.endsNumeral (layout : Layout tokens text)
    (mark : ∀ token ∈ tokens.head?, token.isMark = true) : EndsNumeral text := by
  cases layout with
  | nil blank => exact List.append_nil text ▸ blank.endsNumeral_append (by simp [EndsNumeral])
  | cons blank first others =>
      exact blank.endsNumeral_append (first.endsNumeral_append (mark _ rfl) _)

theorem Layout.tokensWithin_eq (layout : Layout tokens text) (separate : Separate tokens)
    {fuel : Nat} (enough : text.length ≤ fuel) : tokensWithin fuel text = tokens := by
  induction layout generalizing fuel with
  | nil blank => exact tokensWithin_spaces blank fuel
  | cons blank first others induction =>
      obtain ⟨next, separate⟩ := List.isChain_cons.mp separate
      have taken := first.firstToken_append fun number =>
        others.endsNumeral fun token head => next token head number
      exact tokensWithin_append blank first.exists_eq_cons taken
        (fun fuel => induction separate) enough

theorem Layout.tokens_eq {text : String} (layout : Layout tokens text.toList)
    (separate : Separate tokens) : Json.tokens text = tokens :=
  layout.tokensWithin_eq separate le_rfl

theorem Spells.layout (spells : Spells tokens text) : Layout tokens text := by
  induction spells with
  | nil blank => exact .nil blank
  | cons blank first _ induction => exact .cons blank (.lexeme first) induction

theorem Spells.tokens_eq {text : String} (spells : Spells tokens text.toList)
    (separate : Separate tokens) : Json.tokens text = tokens :=
  spells.layout.tokens_eq separate

end Json
end LoadAtlas
