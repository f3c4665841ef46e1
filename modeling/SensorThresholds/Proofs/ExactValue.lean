import SensorThresholds.Json.Number
import Mathlib.Data.Rat.Floor
import Mathlib.Tactic.Linarith
import Mathlib.Tactic.NormNum
import Mathlib.Tactic.Positivity
import Mathlib.Tactic.Ring

/-!
Doubles as the rational numbers that they are exactly. Cutting off a double cuts off its rational
value, and a number of a document is an integer exactly if its rational value is one.
-/

namespace SensorThresholds

/-- The integer next to `x` on the side of zero. -/
def towardZero (x : ℚ) : ℤ := if 0 ≤ x then ⌊x⌋ else ⌈x⌉

theorem towardZero_of_nonneg {x : ℚ} (nonneg : 0 ≤ x) : towardZero x = ⌊x⌋ := if_pos nonneg

theorem towardZero_neg (x : ℚ) : towardZero (-x) = -towardZero x := by
  rcases lt_trichotomy x 0 with negative | rfl | positive
  · rw [towardZero_of_nonneg (by linarith), towardZero, if_neg (by linarith), Int.floor_neg]
  · rfl
  · rw [towardZero_of_nonneg positive.le, towardZero, if_neg (by linarith), Int.ceil_neg]

theorem towardZero_intCast (n : ℤ) : towardZero n = n := by
  unfold towardZero
  split
  · exact Int.floor_intCast n
  · exact Int.ceil_intCast n

theorem towardZero_mono {x y : ℚ} (order : x ≤ y) : towardZero x ≤ towardZero y := by
  unfold towardZero
  split
  · next nonneg =>
      rw [if_pos (nonneg.trans order)]
      exact Int.floor_mono order
  · next negative =>
      split
      · next nonneg =>
          calc
            ⌈x⌉ ≤ 0 := Int.ceil_le.mpr (by exact_mod_cast (not_le.mp negative).le)
            _ ≤ ⌊y⌋ := Int.floor_nonneg.mpr nonneg
      · exact Int.ceil_mono order

theorem towardZero_natCast_div (n d : ℕ) : towardZero ((n : ℚ) / d) = (n / d : ℕ) := by
  have quotient := Rat.floor_intCast_div_natCast n d
  rw [Int.cast_natCast] at quotient
  rw [towardZero_of_nonneg (by positivity), quotient, Int.natCast_div]

/-- Cutting off a quotient is division that leaves a remainder with the sign of the dividend. -/
theorem towardZero_intCast_div (n : ℤ) (d : ℕ) : towardZero ((n : ℚ) / d) = n.tdiv d := by
  obtain ⟨k, rfl | rfl⟩ := n.eq_nat_or_neg
  · rw [Int.cast_natCast, towardZero_natCast_div]
    rfl
  · rw [Int.cast_neg, Int.cast_natCast, neg_div, towardZero_neg, towardZero_natCast_div,
      Int.neg_tdiv]
    rfl

namespace Magnitude

theorem unitsPerOne_pos : 0 < unitsPerOne := by decide +kernel

theorem unitsPerOne_cast_pos : (0 : ℚ) < unitsPerOne := by exact_mod_cast unitsPerOne_pos

def value (m : Magnitude) : ℚ := m.units / unitsPerOne

theorem value_nonneg (m : Magnitude) : 0 ≤ m.value := by
  unfold value
  positivity

theorem units_eq (m : Magnitude) : (m.units : ℚ) = m.value * unitsPerOne := by
  rw [value, div_mul_cancel₀ _ unitsPerOne_cast_pos.ne']

theorem isZero_iff (m : Magnitude) : m.isZero = true ↔ m.value = 0 := by
  have power : m.units = 0 ↔ m.significand = 0 := by simp [units, Nat.pow_eq]
  rw [isZero, beq_iff_eq, ← power, value, div_eq_zero_iff, Nat.cast_eq_zero,
    or_iff_left unitsPerOne_cast_pos.ne']

theorem towardZero_value (m : Magnitude) : towardZero m.value = m.wholePart :=
  towardZero_natCast_div m.units unitsPerOne

theorem isWhole_iff (m : Magnitude) : m.isWhole = true ↔ ∃ k : ℤ, m.value = k := by
  rw [isWhole, beq_iff_eq, ← Nat.dvd_iff_mod_eq_zero, ← Int.natCast_dvd_natCast]
  refine exists_congr fun k => ?_
  rw [value, div_eq_iff unitsPerOne_cast_pos.ne', mul_comm (unitsPerOne : ℤ)]
  exact_mod_cast Iff.rfl

end Magnitude

namespace Double

theorem abs_signed (s : Bool) {x : ℚ} (nonneg : 0 ≤ x) : |if s then -x else x| = x := by
  cases s <;> simp [abs_of_nonneg nonneg]

/-- The rational number that a finite double is. -/
def value? : Double → Option ℚ
  | finite true m => some (-m.value)
  | finite false m => some m.value
  | _ => none

theorem value?_finite (negative : Bool) (m : Magnitude) :
    (finite negative m).value? = some (if negative then -m.value else m.value) := by
  cases negative <;> rfl

theorem exists_finite_of_value? {d : Double} {x : ℚ} (exact : d.value? = some x) :
    ∃ negative m, d = finite negative m ∧ x = if negative then -m.value else m.value := by
  cases d with
  | nan => cases exact
  | infinite _ => cases exact
  | finite negative m =>
      rw [value?_finite] at exact
      exact ⟨negative, m, rfl, (Option.some.inj exact).symm⟩

theorem truncate?_eq (d : Double) : d.truncate? = d.value?.map towardZero := by
  cases d with
  | nan => rfl
  | infinite _ => rfl
  | finite negative m =>
      cases negative with
      | false => exact congrArg some m.towardZero_value.symm
      | true =>
          refine congrArg some ?_
          rw [towardZero_neg, m.towardZero_value]

/-- The integer of a double is its rational value, where that is an integer. -/
theorem toInt?_eq_some_iff (d : Double) (n : ℤ) : d.toInt? = some n ↔ d.value? = some (n : ℚ) := by
  cases d with
  | nan => simp [toInt?, value?]
  | infinite _ => simp [toInt?, value?]
  | finite negative m =>
      rw [toInt?, truncate?_eq, value?_finite]
      constructor
      · intro found
        split at found
        · next whole =>
            obtain ⟨k, exact⟩ := m.isWhole_iff.mp whole
            have integral : (if negative then -m.value else m.value) =
                ((if negative then -k else k : ℤ) : ℚ) := by
              rw [exact]
              split <;> push_cast <;> rfl
            rw [integral, Option.map_some, towardZero_intCast] at found
            rw [integral, Option.some.inj found]
        · cases found
      · intro exact
        have integral := Option.some.inj exact
        have whole : m.isWhole = true := by
          refine m.isWhole_iff.mpr ⟨if negative then -n else n, ?_⟩
          cases negative
          · simpa using integral
          · simpa using (neg_eq_iff_eq_neg.mp integral)
        rw [if_pos whole, integral, Option.map_some, towardZero_intCast]

end Double

namespace Number

/-- The rational number that a number of a document is. -/
def value? : Number → Option ℚ
  | integer n => some n
  | float d => d.value?

theorem toInt?_eq_some_iff (n : Number) (m : ℤ) : n.toInt? = some m ↔ n.value? = some (m : ℚ) := by
  cases n with
  | integer k => simp [toInt?, value?]
  | float d => exact d.toInt?_eq_some_iff m

end Number
end SensorThresholds
