import SensorThresholds.Double.Text
import SensorThresholds.Proofs.Numerals

/-!
The digits of a decimal before and after its point.
-/

namespace SensorThresholds

/-- Digits before and after a point, the ones before it as in a canonical numeral. -/
structure Pointed where
  whole : List Char
  fraction : List Char
  wholeValue : Nat
  fractionValue : Nat
  whole_reads : decimal? whole = some wholeValue
  fraction_reads : decimal? fraction = some fractionValue
  whole_nonempty : whole ≠ []
  whole_canonical : whole.head? = some '0' → whole = ['0']

namespace Pointed

def text (p : Pointed) : List Char := p.whole ++ '.' :: p.fraction

/-- The digits as one number, as if there were no point. -/
def digits (p : Pointed) : Nat := p.wholeValue * 10 ^ p.fraction.length + p.fractionValue

/-- A whole number with one place. -/
def ofWhole (n : Nat) : Pointed where
  whole := decimalDigits n
  fraction := ['0']
  wholeValue := n
  fractionValue := 0
  whole_reads := decimal?_decimalDigits n
  fraction_reads := by decide
  whole_nonempty := Nat.toDigits_ne_nil
  whole_canonical := by
    intro zero
    have none : n = 0 := Nat.eq_zero_of_not_pos fun positive => head?_decimalDigits positive zero
    rw [none]
    exact Nat.toDigits_zero 10

theorem text_ofWhole (n : Nat) : (ofWhole n).text = decimalDigits n ++ ['.', '0'] := rfl

end Pointed

namespace Decimal

theorem head?_take_decimalDigits {n k : Nat} (positive : 0 < n) :
    ((decimalDigits n).take k).head? ≠ some '0' := by
  have first := head?_decimalDigits positive
  cases k with
  | zero => simp
  | succ k =>
      cases digits : decimalDigits n with
      | nil => simp
      | cons c rest => rwa [digits] at first

theorem getLast?_append_decimalDigits (cs : List Char) (n : Nat) :
    (cs ++ decimalDigits n).getLast? = some (Nat.digitChar (n % 10)) := by
  rw [List.getLast?_append, getLast?_decimalDigits]
  rfl

/-- A decimal with places has as many digits after its point, and ends in its last digit. -/
theorem exists_pointed {d : Decimal} (positive : 0 < d.digits) (fractional : d.exponent < 0) :
    ∃ p : Pointed, d.positional = p.text ∧ p.digits = d.digits ∧
      (p.fraction.length : Int) = -d.exponent ∧
      p.fraction.getLast? = some (Nat.digitChar (d.digits % 10)) := by
  have read := decimal?_decimalDigits d.digits
  obtain ⟨places, count⟩ : ∃ places : Nat, places = (-d.exponent).toNat := ⟨_, rfl⟩
  unfold positional
  dsimp only
  rw [← count, if_neg (by omega)]
  by_cases short : places < (decimalDigits d.digits).length
  · rw [if_pos short]
    obtain ⟨kept, length⟩ : ∃ kept, kept = (decimalDigits d.digits).length - places := ⟨_, rfl⟩
    rw [← length]
    have last := getLast?_decimalDigits d.digits
    rw [← List.take_append_drop kept (decimalDigits d.digits)] at read last
    obtain ⟨w, f, whole, fraction, sum⟩ := decimal?_append_eq_some_iff.mp read
    refine ⟨⟨_, _, w, f, whole, fraction, ?_, ?_⟩, rfl, sum.symm, ?_, ?_⟩
    · apply List.ne_nil_of_length_pos
      rw [List.length_take]
      omega
    · intro zero
      exact absurd zero (head?_take_decimalDigits positive)
    · rw [List.length_drop]
      omega
    · rw [List.getLast?_append] at last
      cases tail : ((decimalDigits d.digits).drop kept).getLast? with
      | none =>
          have none := congrArg List.length (List.getLast?_eq_none_iff.mp tail)
          rw [List.length_drop, List.length_nil] at none
          omega
      | some c => rwa [tail, Option.some_or] at last
  · rw [if_neg short]
    have fraction : decimal? (zeros (places - (decimalDigits d.digits).length) ++
        decimalDigits d.digits) = some d.digits :=
      decimal?_append_eq_some_iff.mpr
        ⟨0, _, decimal?_zeros _, read, by rw [Nat.zero_mul, Nat.zero_add]⟩
    refine ⟨⟨['0'], _, 0, d.digits, by decide, fraction, List.cons_ne_nil _ _, fun _ => rfl⟩, rfl,
      ?_, ?_, getLast?_append_decimalDigits _ _⟩
    · rw [Pointed.digits, Nat.zero_mul, Nat.zero_add]
    · rw [List.length_append, zeros, List.length_replicate]
      omega

end Decimal
end SensorThresholds
