import SensorThresholds.Proofs.Rounding

/-!
Products, quotients and whole numbers as doubles: each is the exact result, rounded once. Whole
numbers up to `2 ^ 53` and powers of ten up to `10 ^ 22` are doubles themselves.
-/

namespace SensorThresholds
namespace Magnitude

/-- A number of at most 53 bits, times a power of two, is a double. -/
theorem exists_units_eq {c e : ℕ} (fits : c < 2 ^ 53) (small : e ≤ 2045) :
    ∃ p : Magnitude, p.units = c * 2 ^ e := by
  by_cases zero : c = 0
  · exact ⟨.zero, by rw [zero, Nat.zero_mul]; rfl⟩
  · have least : 2 ^ c.log2 ≤ c := Nat.log2_self_le zero
    have most : c < 2 ^ (c.log2 + 1) := Nat.lt_log2_self
    have bits : c.log2 < 53 := (Nat.log2_lt zero).mpr fits
    -- As much of the power goes into the significand as it can hold.
    let j := min e (52 - c.log2)
    have below : c * 2 ^ j < 2 ^ 53 := by
      calc
        c * 2 ^ j < 2 ^ (c.log2 + 1) * 2 ^ j :=
          Nat.mul_lt_mul_of_pos_right most (Nat.two_pow_pos _)
        _ = 2 ^ (c.log2 + 1 + j) := (Nat.pow_add ..).symm
        _ ≤ 2 ^ 53 := Nat.pow_le_pow_right Nat.zero_lt_two (by omega)
    have full : e - j = 0 ∨ 2 ^ 52 ≤ c * 2 ^ j := by
      by_cases room : e ≤ 52 - c.log2
      · exact .inl (by omega)
      · right
        calc
          2 ^ 52 = 2 ^ c.log2 * 2 ^ j := by
            rw [← Nat.pow_add]
            congr 1
            omega
          _ ≤ c * 2 ^ j := Nat.mul_le_mul_right _ least
    refine ⟨⟨c * 2 ^ j, e - j, below, by omega, full⟩, ?_⟩
    show c * 2 ^ j * 2 ^ (e - j) = c * 2 ^ e
    rw [Nat.mul_assoc, ← Nat.pow_add, Nat.add_sub_cancel' (Nat.min_le_left ..)]

theorem exists_value_eq {c : ℕ} {e : ℤ} (fits : c < 2 ^ 53) (least : -1074 ≤ e) (most : e ≤ 971) :
    ∃ p : Magnitude, p.value = c * 2 ^ e := by
  -- The exponent of the unit is a variable, so that nothing evaluates the power.
  obtain ⟨unit, one, bound⟩ : ∃ n, unitsPerOne = 2 ^ n ∧ n = 1074 := ⟨1074, by decide +kernel, rfl⟩
  obtain ⟨shift, total⟩ := Int.eq_ofNat_of_zero_le (show 0 ≤ e + unit by omega)
  obtain ⟨p, exact⟩ := exists_units_eq (e := shift) fits (by omega)
  refine ⟨p, ?_⟩
  have power : (2 : ℚ) ^ shift = 2 ^ e * 2 ^ unit := by
    rw [← zpow_natCast, ← total, zpow_add₀ two_ne_zero, zpow_natCast]
  rw [value, exact, div_eq_iff unitsPerOne_cast_pos.ne', one]
  push_cast
  rw [power, mul_assoc]

theorem exists_value_eq_natCast {n : ℕ} (small : n ≤ 2 ^ 53) : ∃ p : Magnitude, p.value = n := by
  rcases small.lt_or_eq with below | rfl
  · simpa using exists_value_eq (e := 0) below (by norm_num) (by norm_num)
  · obtain ⟨p, exact⟩ := exists_value_eq (c := 1) (e := 53) (by norm_num) (by norm_num) (by norm_num)
    refine ⟨p, ?_⟩
    rw [exact]
    norm_num

theorem nearest?_natCast {n : ℕ} (small : n ≤ 2 ^ 53) :
    ∃ m, nearest? n = some m ∧ m.value = n := by
  obtain ⟨p, exact⟩ := exists_value_eq_natCast small
  exact nearest?_of_value_eq exact

theorem exists_value_eq_tenPow {n : ℕ} (small : n ≤ 22) : ∃ p : Magnitude, p.value = 10 ^ n := by
  have fits : 5 ^ n < 2 ^ 53 :=
    (Nat.pow_le_pow_right (by norm_num) small).trans_lt (by norm_num)
  obtain ⟨p, exact⟩ := exists_value_eq (e := n) fits (by omega) (by omega)
  refine ⟨p, ?_⟩
  rw [exact, Nat.cast_pow, zpow_natCast, ← mul_pow]
  norm_num

end Magnitude

namespace Double

open Magnitude

theorem ofInt_eq (n : ℤ) : ofInt n = ofRounded (decide (n < 0)) (nearest? n.natAbs) := by
  rw [ofInt, round?_eq_nearest? (Nat.cast_nonneg _) Nat.one_pos]
  push_cast
  ring

theorem exists_ofInt {n : ℤ} (small : n.natAbs ≤ 2 ^ 53) :
    ∃ m : Magnitude, ofInt n = finite (decide (n < 0)) m ∧ m.value = n.natAbs := by
  obtain ⟨m, rounded, same⟩ := nearest?_natCast small
  exact ⟨m, by rw [ofInt_eq, rounded, ofRounded], same⟩

theorem value?_ofInt {n : ℤ} (small : n.natAbs ≤ 2 ^ 53) : (ofInt n).value? = some (n : ℚ) := by
  obtain ⟨m, made, exact⟩ := exists_ofInt small
  rw [made, value?_finite, exact, Nat.cast_natAbs]
  by_cases negative : n < 0
  · rw [decide_eq_true negative, if_pos rfl, abs_of_neg negative, Int.cast_neg, neg_neg]
  · rw [decide_eq_false negative, if_neg Bool.false_ne_true, abs_of_nonneg (not_lt.mp negative)]

theorem not_isZero_of_pos {m : Magnitude} (positive : 0 < m.value) : ¬ m.isZero = true :=
  mt m.isZero_iff.mp positive.ne'

theorem mul_infinite (s t : Bool) : infinite s * infinite t = infinite (s != t) := by
  show Double.mul _ _ = _
  rw [Double.mul]

theorem infinite_mul_finite (s t : Bool) {m : Magnitude} (positive : 0 < m.value) :
    infinite s * finite t m = infinite (s != t) := by
  show Double.mul _ _ = _
  rw [Double.mul, if_neg (not_isZero_of_pos positive)]

theorem finite_mul_infinite (s t : Bool) {m : Magnitude} (positive : 0 < m.value) :
    finite s m * infinite t = infinite (s != t) := by
  show Double.mul _ _ = _
  rw [Double.mul, if_neg (not_isZero_of_pos positive)]

theorem mul_finite (s t : Bool) (m n : Magnitude) :
    finite s m * finite t n = ofRounded (s != t) (nearest? (m.value * n.value)) := by
  have exact : ((m.units * n.units : ℕ) : ℚ) =
      m.value * n.value * (unitsPerOne * unitsPerOne) := by
    rw [Nat.cast_mul, m.units_eq, n.units_eq]
    ring
  show Double.mul _ _ = _
  rw [Double.mul, round?_eq_nearest? (mul_nonneg m.value_nonneg n.value_nonneg) unitsPerOne_pos
    exact]

theorem div_infinite (s t : Bool) (m : Magnitude) :
    finite s m / infinite t = finite (s != t) zero := by
  show Double.div _ _ = _
  rw [Double.div]

theorem div_finite (s t : Bool) (m : Magnitude) {n : Magnitude} (positive : 0 < n.value) :
    finite s m / finite t n = ofRounded (s != t) (nearest? (m.value / n.value)) := by
  have units : 0 < n.units := by
    rw [value, div_pos_iff_of_pos_right unitsPerOne_cast_pos, Nat.cast_pos] at positive
    exact positive
  have exact : ((m.units * unitsPerOne : ℕ) : ℚ) =
      m.value / n.value * (unitsPerOne * n.units) := by
    rw [Nat.cast_mul, m.units_eq, n.units_eq, div_mul_eq_mul_div, eq_div_iff positive.ne']
    ring
  show Double.div _ _ = _
  rw [Double.div, if_neg (not_isZero_of_pos positive),
    round?_eq_nearest? (div_nonneg m.value_nonneg n.value_nonneg) units exact]

end Double
end SensorThresholds
