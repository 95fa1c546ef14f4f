import LoadAtlas.Json.Walk
import LoadAtlas.Proofs.Json.Value

/-!
# Passing over values

A walk that passes over a value goes over exactly its tokens, whatever it is and however deep it
is nested, and stands behind it then.
-/

namespace LoadAtlas
namespace Json

namespace Walk

/-- The tokens behind the value that a walk is in, if it is not over. -/
def goOn : Option Walk → List Token → Except Fault (List Token)
  | none, tokens => .ok tokens
  | some walk, tokens => walk.run .passing tokens

theorem run_of_step {walk : Walk} {token : Token} {next : Option Walk}
    (step : walk.step .passing token = .ok next) (tokens : List Token) :
    walk.run .passing (token :: tokens) = goOn next tokens := by
  simp only [run, step, bind, Except.bind]
  cases next <;> rfl

/-- The places in front of a value. -/
def BeforeValue (place : Place) : Prop :=
  place = .value ∨ place = .firstItem ∨ place = .nextItem

variable {place : Place}

/-- Wherever a value may stand, its first token is taken in the same way: it is no closing
bracket. -/
theorem step_of_beforeValue (before : BeforeValue place) (brackets : List Bracket) {token : Token}
    (opens : token ≠ .closeList) :
    step .passing ⟨place, brackets⟩ token = beginValue .passing brackets token := by
  rcases before with rfl | rfl | rfl
  · rfl
  all_goals
    cases token
    case closeList => exact absurd rfl opens
    all_goals rfl

/-- From every place where it may stand, a walk passes over the tokens and goes on behind the
value. -/
def Passes (tokens : List Token) : Prop :=
  ∀ place brackets rest, BeforeValue place →
    run .passing ⟨place, brackets⟩ (tokens ++ rest) = goOn (afterValue brackets) rest

theorem passes_singleton {token : Token} (opens : token ≠ .closeList)
    (complete : ∀ brackets, beginValue .passing brackets token = .ok (afterValue brackets)) :
    Passes [token] := by
  intro place brackets rest before
  exact run_of_step ((step_of_beforeValue before brackets opens).trans (complete brackets)) rest

theorem run_moreItems {items : List (List Token)} (passes : ∀ item ∈ items, Passes item)
    (brackets : List Bracket) (rest : List Token) :
    run .passing ⟨.behind .list, .list :: brackets⟩ (moreEntries .closeList items ++ rest) =
      goOn (afterValue brackets) rest := by
  induction items with
  | nil => exact run_of_step rfl rest
  | cons item items induction =>
      rw [List.forall_mem_cons] at passes
      have item := passes.1 .nextItem (.list :: brackets) (moreEntries .closeList items ++ rest)
        (.inr (.inr rfl))
      have comma : step .passing ⟨.behind .list, .list :: brackets⟩ .comma =
          .ok (some ⟨.nextItem, .list :: brackets⟩) := rfl
      rw [moreEntries, List.cons_append, List.append_assoc, run_of_step comma]
      exact item.trans (induction passes.2)

theorem passes_list {items : List (List Token)} (passes : ∀ item ∈ items, Passes item) :
    Passes (enclosed .openList .closeList items) := by
  intro place brackets rest before
  have opening : step .passing ⟨place, brackets⟩ .openList =
      .ok (some ⟨.firstItem, .list :: brackets⟩) :=
    step_of_beforeValue before brackets (by simp)
  cases items with
  | nil => exact (run_of_step opening _).trans (run_of_step rfl rest)
  | cons item items =>
      rw [List.forall_mem_cons] at passes
      have item := passes.1 .firstItem (.list :: brackets) (moreEntries .closeList items ++ rest)
        (.inr (.inl rfl))
      rw [enclosed, List.cons_append, List.append_assoc, run_of_step opening]
      exact item.trans (run_moreItems passes.2 brackets rest)

/-- The tokens of a member: a name, a colon and a value. -/
def PassesMember (member : List Token) : Prop :=
  ∃ name value, member = Quoted.token name :: .colon :: value ∧ Passes value

theorem PassesMember.run {member : List Token} (passes : PassesMember member) {place : Place}
    (before : place = .firstKey ∨ place = .nextKey) (brackets : List Bracket)
    (rest : List Token) :
    run .passing ⟨place, .object :: brackets⟩ (member ++ rest) =
      run .passing ⟨.behind .object, .object :: brackets⟩ rest := by
  obtain ⟨name, value, rfl, passes⟩ := passes
  have key : step .passing ⟨place, .object :: brackets⟩ name.token =
      .ok (some ⟨.colon, .object :: brackets⟩) := by
    rcases before with rfl | rfl <;> rfl
  have colon : step .passing ⟨.colon, .object :: brackets⟩ .colon =
      .ok (some ⟨.value, .object :: brackets⟩) := rfl
  rw [List.cons_append, List.cons_append, run_of_step key]
  exact (run_of_step colon _).trans (passes .value (.object :: brackets) rest (.inl rfl))

theorem run_moreMembers {members : List (List Token)}
    (passes : ∀ member ∈ members, PassesMember member) (brackets : List Bracket)
    (rest : List Token) :
    run .passing ⟨.behind .object, .object :: brackets⟩
        (moreEntries .closeObject members ++ rest) = goOn (afterValue brackets) rest := by
  induction members with
  | nil => exact run_of_step rfl rest
  | cons member members induction =>
      rw [List.forall_mem_cons] at passes
      have comma : step .passing ⟨.behind .object, .object :: brackets⟩ .comma =
          .ok (some ⟨.nextKey, .object :: brackets⟩) := rfl
      rw [moreEntries, List.cons_append, List.append_assoc, run_of_step comma]
      exact (passes.1.run (.inr rfl) brackets _).trans (induction passes.2)

theorem passes_object {members : List (List Token)}
    (passes : ∀ member ∈ members, PassesMember member) :
    Passes (enclosed .openObject .closeObject members) := by
  intro place brackets rest before
  have opening : step .passing ⟨place, brackets⟩ .openObject =
      .ok (some ⟨.firstKey, .object :: brackets⟩) :=
    step_of_beforeValue before brackets (by simp)
  cases members with
  | nil => exact (run_of_step opening _).trans (run_of_step rfl rest)
  | cons member members =>
      rw [List.forall_mem_cons] at passes
      rw [enclosed, List.cons_append, List.append_assoc, run_of_step opening]
      exact (passes.1.run (.inl rfl) brackets _).trans (run_moreMembers passes.2 brackets rest)

theorem passes_tokens (value : Value) : Passes value.tokens := by
  induction value with
  | null => exact passes_singleton (by simp) fun _ => rfl
  | boolean value => exact passes_singleton (by simp) fun _ => rfl
  | number numeral sound => exact passes_singleton (by simp) fun _ => rfl
  | text quoted => exact passes_singleton (by simp [Quoted.token]) fun _ => rfl
  | list items induction =>
      refine passes_list ?_
      simpa using induction
  | object members induction =>
      refine passes_object ?_
      rw [memberTokens_eq_map, List.forall_mem_map]
      exact fun member listed => ⟨member.1, _, rfl, induction member listed⟩

end Walk

/-- Passing over a value takes exactly its tokens. -/
theorem Value.pastValue_append (value : Value) (rest : List Token) :
    pastValue .passing (value.tokens ++ rest) = .ok rest :=
  Walk.passes_tokens value .value [] rest (.inl rfl)

end Json
end LoadAtlas
