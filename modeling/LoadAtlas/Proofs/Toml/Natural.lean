import LoadAtlas.Proofs.Json.Token
import LoadAtlas.Toml.Natural

/-!
# Written numbers in TOML

The decimal digits of a natural number spell it.  They begin with no zero, unless the number is
zero, and with none of the prefixes of other bases, so they are read as the number that they
were written for, if it is not beyond the greatest integer.
-/

namespace LoadAtlas

namespace Text

theorem digit?_digitChar {digit : Nat} (small : digit < 10) :
    digit? 10 (Nat.digitChar digit) = some digit := by
  have table : ∀ digit < 10, digit? 10 (Nat.digitChar digit) = some digit := by decide
  exact table digit small

theorem number?_append_singleton (base : Nat) (digits : List Char) (last : Char) :
    number? base (digits ++ [last]) =
      (number? base digits).bind fun number => (digit? base last).map (base * number + ·) := by
  rw [number?, List.foldlM_append]
  simp [number?, bind]

theorem number?_toDigits (number : Nat) :
    number? 10 (Nat.toDigits 10 number) = some number := by
  induction number using Nat.strongRecOn with
  | ind number induction =>
      rw [Nat.toDigits_eq_if (by decide)]
      split
      next small =>
        simp [number?, digit?_digitChar small]
      next large =>
        have remainder : number % 10 < 10 := Nat.mod_lt number (by decide)
        rw [number?_append_singleton, induction (number / 10) (by omega),
          digit?_digitChar remainder]
        exact congrArg some (Nat.div_add_mod number 10)

end Text

namespace Toml

theorem ungrouped?_of_not_mem {digits : List Char} (nonempty : digits ≠ [])
    (absent : '_' ∉ digits) : ungrouped? digits = some digits := by
  fun_induction ungrouped? digits with
  | case1 => exact absurd rfl nonempty
  | case2 => exact absurd (List.mem_singleton.mpr rfl) absent
  | case3 digit notBar => rfl
  | case4 digits => exact absurd List.mem_cons_self absent
  | case5 digit digits notBar induction =>
      exact absurd (List.mem_cons_of_mem _ List.mem_cons_self) absent
  | case6 digits => exact absurd List.mem_cons_self absent
  | case7 digit digits more notDouble notBar induction =>
      rw [List.mem_cons, not_or] at absent
      rw [induction more absent.2]
      rfl

theorem decimal?_toDigits (number : Nat) : decimal? (Nat.toDigits 10 number) = some number := by
  have nonempty := List.ne_nil_of_length_pos (Nat.length_toDigits_pos (b := 10) (n := number))
  have noBar : '_' ∉ Nat.toDigits 10 number := fun member =>
    absurd (Json.isDigit_of_mem_toDigits member) (by decide)
  rw [decimal?, if_neg (Json.not_padded_toDigits number), grouped?,
    ungrouped?_of_not_mem nonempty noBar]
  exact Text.number?_toDigits number

/-- No prefix of another base and no sign stands among decimal digits. -/
theorem unbounded?_of_isDigit {text : List Char}
    (digits : ∀ character ∈ text, character.isDigit = true) : unbounded? text = decimal? text := by
  fun_cases unbounded? text with
  | case1 => exact absurd (digits 'x' (by simp)) (by decide)
  | case2 => exact absurd (digits 'o' (by simp)) (by decide)
  | case3 => exact absurd (digits 'b' (by simp)) (by decide)
  | case4 => exact absurd (digits '+' (by simp)) (by decide)
  | case5 => exact absurd (digits '-' (by simp)) (by decide)
  | case6 => rfl

theorem natural?_toDigits {number : Nat} (bounded : number ≤ greatestInteger) :
    natural? (Nat.toDigits 10 number) = some number := by
  rw [natural?, unbounded?_of_isDigit fun _ => Json.isDigit_of_mem_toDigits,
    decimal?_toDigits, Option.filter_some, if_pos (by simpa using bounded)]

end Toml

end LoadAtlas
