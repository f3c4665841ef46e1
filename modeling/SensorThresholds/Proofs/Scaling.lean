import SensorThresholds.Proofs.PowersOfTen
import SensorThresholds.Proofs.RoundingOrder
import SensorThresholds.Report

/-!
What scaling does with a number. The unit modifier alone decides by which number every raw value is
multiplied before it is rounded. Up to `10 ^ 22` that is the power of ten itself, so that the result
is the correctly rounded product.
-/

namespace SensorThresholds
namespace Double

open Magnitude

section Factor

variable {raw : Double} {m : ℤ} {c x : ℚ} {t : Magnitude}

theorem scale_of_fits (raw : Double) (fits : m.natAbs < 2 ^ 31) :
    scale raw m = Option.guard isFinite
      (if 0 ≤ m then raw * tenToThe m.natAbs else raw / tenToThe m.natAbs) :=
  if_pos fits

theorem scale_of_not_fits (raw : Double) (past : 2 ^ 31 ≤ m.natAbs) : scale raw m = none :=
  if_neg (Nat.not_lt.mpr past)

theorem guard_ofRounded (s : Bool) (rounded : Option Magnitude) :
    Option.guard isFinite (ofRounded s rounded) = rounded.map (finite s) := by
  cases rounded <;> rfl

theorem isFinite_mul_infinite (d : Double) (s : Bool) : (d * infinite s).isFinite = false := by
  show (Double.mul d (infinite s)).isFinite = false
  cases d with
  | finite t p =>
      rw [mul]
      split <;> rfl
  | _ => rfl

/-- With the modifier `m` every finite double is multiplied by `c` and rounded once. -/
structure ScalesBy (m : ℤ) (c : ℚ) : Prop where
  nonneg : 0 ≤ c
  scaled (s : Bool) (p : Magnitude) :
    scale (finite s p) m = (nearest? (p.value * c)).map (finite s)

theorem scalesBy_of_finite (fits : m.natAbs < 2 ^ 31) (power : tenToThe m.natAbs = finite false t)
    (positive : 0 < t.value) : ScalesBy m (if 0 ≤ m then t.value else t.value⁻¹) := by
  constructor
  · split
    · exact positive.le
    · exact (inv_pos.mpr positive).le
  · intro s p
    rw [scale_of_fits _ fits, power]
    split
    · rw [mul_finite, Bool.bne_false, guard_ofRounded]
    · rw [div_finite _ _ _ positive, Bool.bne_false, guard_ofRounded, div_eq_mul_inv]

/-- Nothing is left of a number that is divided by an infinite power. -/
theorem scalesBy_zero (fits : m.natAbs < 2 ^ 31) (power : tenToThe m.natAbs = infinite false)
    (negative : m < 0) : ScalesBy m 0 := by
  refine ⟨le_refl 0, fun s p => ?_⟩
  rw [scale_of_fits _ fits, power, if_neg negative.not_ge, div_infinite, Bool.bne_false, mul_zero,
    nearest?_zero]
  rfl

/-- Times an infinite power nothing is finite, a zero included. -/
theorem scale_of_infinite (raw : Double) (fits : m.natAbs < 2 ^ 31)
    (power : tenToThe m.natAbs = infinite false) (nonneg : 0 ≤ m) : scale raw m = none := by
  rw [scale_of_fits _ fits, power, if_pos nonneg, Option.guard, isFinite_mul_infinite,
    if_neg Bool.false_ne_true]

/-- Up to `10 ^ 308` an infinite power only divides. -/
theorem exists_scalesBy (least : -2 ^ 31 < m) (most : m ≤ 308) : ∃ c, ScalesBy m c := by
  have fits : m.natAbs < 2 ^ 31 := by omega
  rcases tenToThe_near m.natAbs with ⟨past, power⟩ | ⟨t, power, near⟩
  · exact ⟨0, scalesBy_zero fits power (by omega)⟩
  · exact ⟨_, scalesBy_of_finite fits power (near.pos (by positivity))⟩

theorem scalesBy_or_none (m : ℤ) : (∀ raw, scale raw m = none) ∨ ∃ c, ScalesBy m c := by
  by_cases fits : m.natAbs < 2 ^ 31
  · rcases tenToThe_near m.natAbs with ⟨-, power⟩ | ⟨t, power, near⟩
    · rcases lt_or_ge m 0 with negative | nonneg
      · exact .inr ⟨0, scalesBy_zero fits power negative⟩
      · exact .inl fun raw => scale_of_infinite raw fits power nonneg
    · exact .inr ⟨_, scalesBy_of_finite fits power (near.pos (by positivity))⟩
  · exact .inl fun raw => scale_of_not_fits raw (Nat.le_of_not_lt fits)

/-- The sign stays, and the size is multiplied. -/
theorem ScalesBy.scale_eq (factor : ScalesBy m c) (held : raw.value? = some x) :
    scale raw m = (nearest? (|x| * c)).map (finite raw.isNegative) := by
  obtain ⟨s, p, rfl, rfl⟩ := exists_finite_of_value? held
  rw [factor.scaled, abs_signed s p.value_nonneg]
  rfl

theorem ScalesBy.scale_eq_zero (factor : ScalesBy m c) (held : raw.value? = some x)
    (zero : |x| * c = 0) : scale raw m = some (finite raw.isNegative .zero) := by
  rw [factor.scale_eq held, zero, nearest?_zero]
  rfl

theorem value?_zero (s : Bool) : (finite s zero).value? = some 0 := by
  rw [value?_finite, value_zero, neg_zero, ite_self]

theorem tenPow_eq (m : ℤ) :
    (10 : ℚ) ^ m = if 0 ≤ m then 10 ^ m.natAbs else (10 ^ m.natAbs)⁻¹ := by
  split
  · next nonneg => rw [← zpow_natCast, Int.natAbs_of_nonneg nonneg]
  · next negative =>
      rw [← zpow_natCast, Int.ofNat_natAbs_of_nonpos (Int.not_le.mp negative).le, zpow_neg, inv_inv]

theorem scalesBy_tenPow (small : m.natAbs ≤ 22) : ScalesBy m (10 ^ m) := by
  obtain ⟨t, power, value⟩ := tenToThe_exact small
  have positive : 0 < t.value := by
    rw [value]
    positivity
  have factor := scalesBy_of_finite (small.trans_lt (by decide)) power positive
  rwa [value, ← tenPow_eq] at factor

end Factor

section Correct

variable {raw : Double} {m : ℤ} {x : ℚ}

theorem tenPow_lt_overflow : (10 : ℚ) ^ 308 < overflow := by
  have sum : (10 ^ 308 + 2 ^ 970 : ℕ) < 2 ^ 1024 := by decide +kernel
  rw [overflow, lt_sub_iff_add_lt]
  exact_mod_cast sum

/-- With a modifier of at most 22 the exact product is rounded once: to the nearest double, a tie
going to the even one, with the sign of the raw value; and to nothing from the overflow on. -/
theorem scale_correctly_rounded (held : raw.value? = some x) (least : -22 ≤ m) (most : m ≤ 22) :
    (scale raw m = none ↔ overflow ≤ |x * 10 ^ m|) ∧
      ∀ v, scale raw m = some v → v.IsNearest (x * 10 ^ m) ∧ v.isNegative = raw.isNegative := by
  have factor : ScalesBy m (10 ^ m) := scalesBy_tenPow (by omega)
  constructor
  · have size : |x * 10 ^ m| = |x| * 10 ^ m := by rw [abs_mul, abs_of_nonneg factor.nonneg]
    rw [factor.scale_eq held, Option.map_eq_none_iff, size]
    exact nearest?_eq_none_iff (mul_nonneg (abs_nonneg x) factor.nonneg)
  · intro v scaled
    obtain ⟨s, p, rfl, rfl⟩ := exists_finite_of_value? held
    rw [factor.scaled, Option.map_eq_some_iff] at scaled
    obtain ⟨q, rounded, rfl⟩ := scaled
    have nearest := isNearest_of_nearest? s (mul_nonneg p.value_nonneg factor.nonneg) rounded
    rw [ite_mul, neg_mul]
    exact ⟨nearest, rfl⟩

theorem scale_correctly_rounded_thousandths :
    ∃ v, scale (ofInt 1100) (-3) = some v ∧ v.IsNearest (11 / 10) ∧ v.isNegative = false := by
  have exact : ((1100 : ℤ) * 10 ^ (-3 : ℤ) : ℚ) = 11 / 10 := by norm_num
  obtain ⟨past, found⟩ := scale_correctly_rounded (m := -3) (value?_ofInt (n := 1100) (by decide))
    (by decide) (by decide)
  rw [exact] at past found
  cases scaled : scale (ofInt 1100) (-3) with
  | none =>
      have small : |(11 / 10 : ℚ)| < overflow := by
        calc
          |(11 / 10 : ℚ)| ≤ 10 ^ 1 := by norm_num
          _ ≤ 10 ^ 308 := pow_le_pow_right₀ (by norm_num) (by norm_num)
          _ < overflow := tenPow_lt_overflow
      exact absurd (past.mp scaled) small.not_ge
  | some v =>
      obtain ⟨nearest, sign⟩ := found v scaled
      obtain ⟨p, made, -⟩ := exists_ofInt (n := 1100) (by decide)
      refine ⟨v, rfl, nearest, ?_⟩
      rw [sign, made]
      rfl

end Correct

end Double
end SensorThresholds
