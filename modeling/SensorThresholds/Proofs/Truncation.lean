import SensorThresholds.Proofs.Scaling
import Mathlib.Data.Nat.Cast.Order.Field

/-!
Whole numbers scaled by powers of ten and cut off. A quotient is rounded to a double before it is cut
off, but rounding never carries it up to the next integer, so the digits shown are exact.
-/

namespace SensorThresholds

theorem towardZero_mul_tenPow (n : ℤ) {m : ℤ} (nonneg : 0 ≤ m) :
    towardZero (n * 10 ^ m) = n * 10 ^ m.toNat := by
  obtain ⟨k, rfl⟩ := Int.eq_ofNat_of_zero_le nonneg
  have integral : (n * 10 ^ (k : ℤ) : ℚ) = (n * 10 ^ k : ℤ) := by
    push_cast
    rw [zpow_natCast]
  rw [integral, towardZero_intCast, Int.toNat_natCast]

theorem towardZero_div_tenPow (n : ℤ) {m : ℤ} (negative : m < 0) :
    towardZero (n * 10 ^ m) = n.tdiv (10 ^ m.natAbs) := by
  obtain ⟨k, rfl⟩ : ∃ k : ℕ, m = -k := ⟨m.natAbs, by omega⟩
  have quotient : (n * 10 ^ (-k : ℤ) : ℚ) = n / (10 ^ k : ℕ) := by
    rw [zpow_neg, zpow_natCast, div_eq_mul_inv, Nat.cast_pow, Nat.cast_ofNat]
  rw [quotient, towardZero_intCast_div, Int.natAbs_neg, Int.natAbs_natCast, Nat.cast_pow,
    Nat.cast_ofNat]

namespace Magnitude

theorem wholePart_eq_iff {m : Magnitude} {a : ℕ} :
    m.wholePart = a ↔ (a : ℚ) ≤ m.value ∧ m.value < a + 1 := by
  have floor : (m.wholePart : ℤ) = ⌊m.value⌋ := by
    rw [← m.towardZero_value, towardZero_of_nonneg m.value_nonneg]
  rw [← Int.natCast_inj, floor, Int.floor_eq_iff, Int.cast_natCast]

theorem wholePart_of_value_eq {m : Magnitude} {a : ℕ} (exact : m.value = a) : m.wholePart = a :=
  wholePart_eq_iff.mpr ⟨exact.ge, by rw [exact]; exact lt_add_one _⟩

theorem wholePart_eq_zero_of_le_half {x : ℚ} {m : Magnitude} (nonneg : 0 ≤ x) (small : x ≤ 1 / 2)
    (rounded : nearest? x = some m) : m.wholePart = 0 := by
  obtain ⟨p, half⟩ := exists_value_eq (c := 1) (e := -1) (by decide) (by decide) (by decide)
  have value : p.value = 1 / 2 := by
    rw [half]
    norm_num
  have below := nearest?_le nonneg rounded (small.trans value.ge)
  rw [wholePart_eq_iff, Nat.cast_zero]
  exact ⟨m.value_nonneg, by linarith⟩

/-- The whole part of a quotient outlasts its rounding. Rounding up adds less than the quotient's
share of `2 ^ 53`, which is at most `1 / d`, and that far the next integer is away at least. -/
theorem wholePart_nearest? {n d : ℕ} (small : n ≤ 2 ^ 53) (positive : 0 < d)
    (normal : 2 ^ 52 * d ≤ unitsPerOne) {m : Magnitude} (rounded : nearest? (n / d) = some m) :
    m.wholePart = n / d := by
  have nonneg : (0 : ℚ) ≤ n / d := div_nonneg (Nat.cast_nonneg n) (Nat.cast_nonneg d)
  have scale : (0 : ℚ) < d := by exact_mod_cast positive
  rw [wholePart_eq_iff]
  constructor
  · obtain ⟨p, exact⟩ := exists_value_eq_natCast ((Nat.div_le_self n d).trans small)
    rw [← exact]
    exact le_nearest? nonneg rounded (exact ▸ Nat.cast_div_le)
  · rcases Nat.eq_zero_or_pos n with rfl | some
    · obtain ⟨p, zero⟩ := exists_value_eq_natCast (Nat.zero_le (2 ^ 53))
      have above : ((0 : ℕ) : ℚ) / d ≤ p.value := by rw [zero, Nat.cast_zero, zero_div]
      have none := nearest?_le nonneg rounded above
      rw [zero] at none
      exact none.trans_lt (lt_of_lt_of_le one_pos (le_add_of_nonneg_left (Nat.cast_nonneg _)))
    · have full : 2 ^ 52 ≤ (n / d : ℚ) * unitsPerOne := by
        have large : 2 ^ 52 * d ≤ n * unitsPerOne := normal.trans (Nat.le_mul_of_pos_left _ some)
        rw [div_mul_eq_mul_div, le_div_iff₀ scale]
        exact_mod_cast large
      clear normal
      have up := (nearest?_near full rounded).2
      have next : n + 1 ≤ (n / d + 1) * d := Nat.lt_mul_of_div_lt (Nat.lt_succ_self _) positive
      have apart : (n + 1 : ℚ) ≤ ((n / d : ℕ) + 1) * d := by exact_mod_cast next
      have bound : (n : ℚ) ≤ 2 ^ 53 := by exact_mod_cast small
      by_contra carried
      have contrary : (2 ^ 53 + 1) * (n + 1 : ℚ) ≤ (2 ^ 53 + 2) * n := by
        calc
          (2 ^ 53 + 1) * (n + 1 : ℚ) ≤ (2 ^ 53 + 1) * (((n / d : ℕ) + 1) * d) := by gcongr
          _ ≤ (2 ^ 53 + 1) * (m.value * d) := by gcongr; exact not_lt.mp carried
          _ ≤ (2 ^ 53 + 2) * (n / d) * d := by
            rw [← mul_assoc]
            gcongr
          _ = (2 ^ 53 + 2) * n := by rw [mul_assoc, div_mul_cancel₀ _ scale.ne']
      linarith

end Magnitude

namespace Double

open Magnitude

variable {p : Magnitude} {n : ℕ} {m : ℤ}

/-- A whole product of at most 53 bits is no product with a rounded power of ten. -/
theorem exists_product (exact : p.value = n) (nonneg : 0 ≤ m) (small : n * 10 ^ m.toNat ≤ 2 ^ 53)
    (defined : n ≠ 0 ∨ m ≤ 308) :
    ∃ c, ScalesBy m c ∧ p.value * c = (n * 10 ^ m.toNat : ℕ) := by
  rw [exact]
  by_cases none : n = 0
  · obtain ⟨c, factor⟩ := exists_scalesBy (m := m) (by omega) (by omega)
    exact ⟨c, factor, by rw [none, Nat.zero_mul, Nat.cast_zero, zero_mul]⟩
  · have few : m.toNat < 16 := by
      rw [← Nat.pow_lt_pow_iff_right (show 1 < 10 by decide)]
      exact ((Nat.le_mul_of_pos_left _ (Nat.pos_of_ne_zero none)).trans small).trans_lt (by decide)
    refine ⟨10 ^ m, scalesBy_tenPow (by omega), ?_⟩
    rw [← Int.toNat_of_nonneg nonneg, zpow_natCast, Int.toNat_natCast]
    push_cast
    rfl

/-- Past `10 ^ 22` the power is so large that nothing whole is left of a quotient. -/
theorem exists_scalesBy_small (fits : m.natAbs < 2 ^ 31) (large : m < -22) :
    ∃ c, ScalesBy m c ∧ c ≤ 1 / 2 ^ 54 := by
  rcases tenToThe_near m.natAbs with ⟨-, power⟩ | ⟨t, power, near⟩
  · exact ⟨0, scalesBy_zero fits power (by omega), by norm_num⟩
  · have vast : 2 ^ 54 ≤ 9 ^ m.natAbs := by
      calc
        2 ^ 54 ≤ 9 ^ 23 := by decide
        _ ≤ 9 ^ m.natAbs := Nat.pow_le_pow_right (by decide) (by omega)
    have least : (2 : ℚ) ^ 54 ≤ t.value := by
      refine le_trans ?_ (near.ninePow_le le_rfl)
      exact_mod_cast vast
    have positive : 0 < t.value := lt_of_lt_of_le (by norm_num) least
    refine ⟨_, scalesBy_of_finite fits power positive, ?_⟩
    rw [if_neg (by omega), one_div]
    exact inv_anti₀ (by norm_num) least

theorem scale_quotient (s : Bool) (exact : p.value = n) (small : n ≤ 2 ^ 53)
    (fits : m.natAbs < 2 ^ 31) (negative : m < 0) :
    ∃ r, scale (finite s p) m = some (finite s r) ∧ r.wholePart = n / 10 ^ m.natAbs := by
  suffices ∃ c r, ScalesBy m c ∧ nearest? (p.value * c) = some r ∧
      r.wholePart = n / 10 ^ m.natAbs by
    obtain ⟨c, r, factor, rounded, whole⟩ := this
    exact ⟨r, by rw [factor.scaled, rounded]; rfl, whole⟩
  by_cases few : m.natAbs ≤ 22
  · have quotient : p.value * 10 ^ m = n / (10 ^ m.natAbs : ℕ) := by
      rw [exact, tenPow_eq, if_neg negative.not_ge, Nat.cast_pow, Nat.cast_ofNat, div_eq_mul_inv]
    have above : (n / (10 ^ m.natAbs : ℕ) : ℚ) ≤ p.value := by
      rw [exact]
      exact div_le_self (Nat.cast_nonneg n) (by exact_mod_cast Nat.one_le_pow' _ 9)
    obtain ⟨r, rounded⟩ :=
      exists_nearest? (div_nonneg (Nat.cast_nonneg n) (Nat.cast_nonneg _)) above
    have normal : 2 ^ 52 * 10 ^ m.natAbs ≤ unitsPerOne :=
      (Nat.mul_le_mul_left _ (Nat.pow_le_pow_right (by decide) few)).trans (by decide +kernel)
    exact ⟨10 ^ m, r, scalesBy_tenPow few, by rw [quotient, rounded],
      wholePart_nearest? small (by positivity) normal rounded⟩
  · obtain ⟨c, factor, tiny⟩ := exists_scalesBy_small fits (by omega)
    have nonneg : 0 ≤ p.value * c := mul_nonneg p.value_nonneg factor.nonneg
    have half : p.value * c ≤ 1 / 2 := by
      calc
        p.value * c ≤ 2 ^ 53 * (1 / 2 ^ 54) := by
          refine mul_le_mul ?_ tiny factor.nonneg (by norm_num)
          rw [exact]
          exact_mod_cast small
        _ = 1 / 2 := by norm_num
    obtain ⟨q, one⟩ := exists_value_eq_natCast (show 1 ≤ 2 ^ 53 by decide)
    obtain ⟨r, rounded⟩ := exists_nearest? (p := q) nonneg (half.trans (by rw [one]; norm_num))
    have below : n / 10 ^ m.natAbs = 0 := by
      have vast : 10 ^ 23 ≤ 10 ^ m.natAbs := Nat.pow_le_pow_right (by decide) (by omega)
      exact Nat.div_eq_of_lt (by omega)
    exact ⟨c, r, factor, rounded, by rw [below, wholePart_eq_zero_of_le_half nonneg half rounded]⟩

theorem exists_scaled (s : Bool) (exact : p.value = n) (small : n ≤ 2 ^ 53)
    (fits : m.natAbs < 2 ^ 31)
    (bounded : m < 0 ∨ n * 10 ^ m.toNat ≤ 2 ^ 53 ∧ (n ≠ 0 ∨ m ≤ 308)) :
    ∃ r, scale (finite s p) m = some (finite s r) ∧
      (r.wholePart : ℤ) = towardZero (n * 10 ^ m) ∧ r.wholePart ≤ 2 ^ 53 := by
  rcases lt_or_ge m 0 with negative | nonneg
  · obtain ⟨r, scaled, whole⟩ := scale_quotient s exact small fits negative
    have cut := towardZero_div_tenPow n negative
    rw [Int.cast_natCast, Int.tdiv_eq_ediv_of_nonneg (Int.natCast_nonneg n)] at cut
    refine ⟨r, scaled, ?_, ?_⟩
    · rw [cut, whole]
      push_cast
      rfl
    · rw [whole]
      exact (Nat.div_le_self n _).trans small
  · obtain ⟨product, defined⟩ := bounded.resolve_left nonneg.not_gt
    obtain ⟨c, factor, same⟩ := exists_product exact nonneg product defined
    obtain ⟨r, rounded, value⟩ := nearest?_natCast product
    have whole := wholePart_of_value_eq value
    have cut := towardZero_mul_tenPow n nonneg
    rw [Int.cast_natCast] at cut
    refine ⟨r, by rw [factor.scaled, same, rounded]; rfl, ?_, whole.trans_le product⟩
    rw [cut, whole]
    push_cast
    rfl

/-- A whole number of at most 53 bits is scaled to a double that cuts off to the exact integer. -/
theorem scale_whole {raw : Double} {n m : ℤ} (exact : raw.value? = some (n : ℚ))
    (small : n.natAbs ≤ 2 ^ 53) (fits : m.natAbs < 2 ^ 31)
    (bounded : m < 0 ∨ n.natAbs * 10 ^ m.toNat ≤ 2 ^ 53 ∧ (n ≠ 0 ∨ m ≤ 308)) :
    ∃ v, scale raw m = some v ∧ v.truncate? = some (towardZero (n * 10 ^ m)) ∧
      (towardZero (n * 10 ^ m)).natAbs ≤ 2 ^ 53 := by
  obtain ⟨s, p, rfl, signed⟩ := exists_finite_of_value? exact
  have size : p.value = n.natAbs := by
    rw [Nat.cast_natAbs, Int.cast_abs, signed, abs_signed s p.value_nonneg]
  obtain ⟨r, scaled, whole, bound⟩ := exists_scaled s size small fits
    (bounded.imp_right fun both => ⟨both.1, both.2.imp_left Int.natAbs_ne_zero.mpr⟩)
  have cut : towardZero (n * 10 ^ m) = if s then -(r.wholePart : ℤ) else r.wholePart := by
    rw [signed, size, whole]
    cases s with
    | false => rfl
    | true => rw [if_pos rfl, if_pos rfl, neg_mul, towardZero_neg]
  refine ⟨finite s r, scaled, ?_, ?_⟩
  · rw [cut]
    cases s <;> rfl
  · rw [cut]
    cases s <;> simpa using bound

end Double
end SensorThresholds
