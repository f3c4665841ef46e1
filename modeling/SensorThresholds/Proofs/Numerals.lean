import SensorThresholds.Text.Numeral
import Mathlib.Tactic.Ring

/-!
The text of an integer is its canonical numeral: digits that read back, none of them a superfluous
zero, and a sign exactly if the integer is negative.
-/

namespace SensorThresholds

/-- The canonical numeral of an integer in base ten. -/
def IsNumeral (text : String) (n : Int) : Prop :=
  ∃ digits : List Char, text.toList = (if n < 0 then '-' :: digits else digits) ∧
    decimal? digits = some n.natAbs ∧ digits ≠ [] ∧ (digits.head? = some '0' → digits = ['0'])

theorem decimal?_eq_some_iff {digits : List Char} {n : Nat} :
    decimal? digits = some n ↔
      digits.all Char.isDigit = true ∧ Nat.ofDigitChars 10 digits 0 = n := by
  rw [decimal?, Nat.ofDigitChars_eq_foldl]
  simp only [Nat.mul_comm 10, Option.ite_none_right_eq_some, Option.some.injEq]

theorem all_isDigit_decimalDigits (n : Nat) : (decimalDigits n).all Char.isDigit = true :=
  List.all_eq_true.mpr fun _ member =>
    Nat.isDigit_of_mem_toDigits (by decide) (by decide) member

theorem decimal?_decimalDigits (n : Nat) : decimal? (decimalDigits n) = some n := by
  rw [decimal?_eq_some_iff]
  exact ⟨all_isDigit_decimalDigits n, Nat.ofDigitChars_toDigits (by decide) (by decide)⟩

theorem decimal?_zeros (n : Nat) : decimal? (zeros n) = some 0 := by
  rw [decimal?_eq_some_iff, zeros, Nat.ofDigitChars_replicate_zero]
  exact ⟨by simp, Nat.mul_zero _⟩

theorem ofDigitChars_eq_add (digits : List Char) (n : Nat) :
    Nat.ofDigitChars 10 digits n = n * 10 ^ digits.length + Nat.ofDigitChars 10 digits 0 := by
  induction digits generalizing n with
  | nil => simp
  | cons c digits ih =>
      rw [Nat.ofDigitChars_cons, Nat.ofDigitChars_cons, Nat.mul_zero, Nat.zero_add, ih,
        ih (c.toNat - _), List.length_cons, Nat.pow_succ', Nat.add_mul, Nat.add_assoc,
        Nat.mul_comm 10 n, Nat.mul_assoc]

/-- Digits one after the other: the first ones count by the number of those that follow. -/
theorem decimal?_append_eq_some_iff {first last : List Char} {n : Nat} :
    decimal? (first ++ last) = some n ↔
      ∃ k m, decimal? first = some k ∧ decimal? last = some m ∧ n = k * 10 ^ last.length + m := by
  simp only [decimal?_eq_some_iff, List.all_append, Bool.and_eq_true, Nat.ofDigitChars_append,
    ofDigitChars_eq_add last (Nat.ofDigitChars 10 first 0)]
  constructor
  · rintro ⟨⟨digits, digits'⟩, rfl⟩
    exact ⟨_, _, ⟨digits, rfl⟩, ⟨digits', rfl⟩, rfl⟩
  · rintro ⟨k, m, ⟨digits, rfl⟩, ⟨digits', rfl⟩, rfl⟩
    exact ⟨⟨digits, digits'⟩, rfl⟩

theorem getLast?_decimalDigits (n : Nat) :
    (decimalDigits n).getLast? = some (Nat.digitChar (n % 10)) := by
  unfold decimalDigits
  by_cases small : n < 10
  · rw [Nat.toDigits_of_lt_base small, List.getLast?_singleton, Nat.mod_eq_of_lt small]
  · rw [Nat.toDigits_of_base_le (by decide) (by omega), List.getLast?_concat]

theorem decimalDigits_mul_tenPow {n : Nat} (positive : 0 < n) (k : Nat) :
    decimalDigits (n * 10 ^ k) = decimalDigits n ++ zeros k := by
  induction k with
  | zero => rw [Nat.pow_zero, Nat.mul_one, zeros, List.replicate_zero, List.append_nil]
  | succ k ih =>
      have last := Nat.toDigits_append_toDigits (b := 10) (n := n * 10 ^ k) (d := 0) (by decide)
        (Nat.mul_pos positive (Nat.pow_pos (by decide))) (by decide)
      rw [zeros, List.replicate_succ', ← List.append_assoc, ← zeros, ← ih, Nat.pow_succ,
        ← Nat.mul_assoc, Nat.mul_comm _ 10]
      exact last.symm

theorem head?_decimalDigits {n : Nat} (positive : 0 < n) : (decimalDigits n).head? ≠ some '0' := by
  induction n using Nat.strongRecOn with
  | _ n ih =>
      unfold decimalDigits at ih ⊢
      by_cases small : n < 10
      · rw [Nat.toDigits_of_lt_base small, List.head?_singleton, ne_eq, Option.some.injEq,
          Nat.digitChar_eq_zero]
        omega
      · have first : (Nat.toDigits 10 (n / 10)).head? ≠ some '0' := ih _ (by omega) (by omega)
        rw [Nat.toDigits_of_base_le (by decide) (by omega), List.head?_append]
        cases leading : (Nat.toDigits 10 (n / 10)).head? with
        | none => exact absurd (List.head?_eq_none_iff.mp leading) Nat.toDigits_ne_nil
        | some c => rwa [leading] at first

theorem isNumeral_integerText (n : Int) : IsNumeral (.ofList (integerText n)) n := by
  refine ⟨decimalDigits n.natAbs, ?_, decimal?_decimalDigits _, Nat.toDigits_ne_nil, ?_⟩
  · simp [integerText, signed]
  · intro zero
    have none : n.natAbs = 0 := Nat.eq_zero_of_not_pos fun positive =>
      head?_decimalDigits positive zero
    rw [none]
    exact Nat.toDigits_zero 10

end SensorThresholds
