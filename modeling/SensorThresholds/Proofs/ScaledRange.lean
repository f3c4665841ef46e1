import SensorThresholds.Proofs.Scaling
import Mathlib.Algebra.Order.Ring.Pow

/-!
How far scaling can be trusted. Up to `10 ^ 308` the factor is the power of ten but for one rounding
for each factor ten, so that a product that is neither tiny nor huge keeps twelve digits. Past that
the power is infinite, and zeros and moderate products are lost.
-/

namespace SensorThresholds
namespace Double

open Magnitude

section Near

variable {w : ℕ} {x y z : ℚ}

/-- One of the numbers is the other one but for `w` roundings. -/
def Close (w : ℕ) (x y : ℚ) : Prop := x * (1 - epsilon) ^ w ≤ y ∧ y * (1 - epsilon) ^ w ≤ x

theorem Within.close (near : Within w x y) (nonneg : 0 ≤ x) : Close w x y := by
  have small : (1 + epsilon) * (1 - epsilon) ≤ 1 := by
    unfold epsilon
    norm_num
  have factors : 0 ≤ (1 + epsilon) * (1 - epsilon) :=
    mul_nonneg (zero_le_one.trans one_le_one_add_epsilon) one_sub_epsilon_pos.le
  refine ⟨near.1, ?_⟩
  calc
    y * (1 - epsilon) ^ w ≤ x * (1 + epsilon) ^ w * (1 - epsilon) ^ w :=
      mul_le_mul_of_nonneg_right near.2 (pow_pos one_sub_epsilon_pos w).le
    _ = x * ((1 + epsilon) * (1 - epsilon)) ^ w := by rw [mul_pow, mul_assoc]
    _ ≤ x := mul_le_of_le_one_right nonneg (pow_le_one₀ factors small)

theorem Close.inv (close : Close w x y) (left : 0 < x) (right : 0 < y) : Close w x⁻¹ y⁻¹ := by
  constructor
  · rw [inv_mul_le_iff₀ left, ← div_eq_mul_inv, le_div_iff₀ right, mul_comm]
    exact close.2
  · rw [inv_mul_le_iff₀ right, ← div_eq_mul_inv, le_div_iff₀ left, mul_comm]
    exact close.1

theorem Close.mul_left (close : Close w x y) (nonneg : 0 ≤ z) : Close w (z * x) (z * y) := by
  constructor <;> rw [mul_assoc]
  · exact mul_le_mul_of_nonneg_left close.1 nonneg
  · exact mul_le_mul_of_nonneg_left close.2 nonneg

/-- One more rounding, of a number that is not subnormal. -/
theorem Close.round {q : Magnitude} (close : Close w x y) (normal : 2 ^ 52 ≤ y * unitsPerOne)
    (rounded : nearest? y = some q) : Close (w + 1) x q.value := by
  obtain ⟨down, up⟩ := nearest?_near normal rounded
  have shrunk := (pow_pos one_sub_epsilon_pos w).le
  have size := q.value_nonneg
  have lower : y * (1 - epsilon) ≤ q.value := by
    unfold epsilon
    linarith
  have upper : q.value * (1 - epsilon) ≤ y := by
    unfold epsilon
    linarith
  constructor
  · calc
      x * (1 - epsilon) ^ (w + 1) = x * (1 - epsilon) ^ w * (1 - epsilon) := by ring
      _ ≤ y * (1 - epsilon) := mul_le_mul_of_nonneg_right close.1 one_sub_epsilon_pos.le
      _ ≤ q.value := lower
  · calc
      q.value * (1 - epsilon) ^ (w + 1) = q.value * (1 - epsilon) * (1 - epsilon) ^ w := by ring
      _ ≤ y * (1 - epsilon) ^ w := mul_le_mul_of_nonneg_right upper shrunk
      _ ≤ x := close.2

/-- Each rounding takes away one part in `2 ^ 53` at most. -/
theorem le_roundings (few : w ≤ 309) : 1 - 309 / 2 ^ 53 ≤ (1 - epsilon) ^ w := by
  have bernoulli : 1 + (w : ℚ) * -epsilon ≤ (1 + -epsilon) ^ w :=
    one_add_mul_le_pow (by unfold epsilon; norm_num) w
  have bound : (w : ℚ) ≤ 309 := by exact_mod_cast few
  calc
    (1 - 309 / 2 ^ 53 : ℚ) = 1 + 309 * -epsilon := by
      unfold epsilon
      norm_num
    _ ≤ 1 + w * -epsilon := by
      unfold epsilon
      linarith
    _ ≤ (1 - epsilon) ^ w := by rwa [sub_eq_add_neg]

/-- As many roundings as a power of ten and one more take do not reach the thirteenth digit. -/
theorem Close.error (close : Close w x y) (few : w ≤ 309) (left : 0 ≤ x) (right : 0 ≤ y) :
    |y - x| ≤ x / 10 ^ 12 := by
  have shrunk := le_roundings few
  have lower : x * (1 - 309 / 2 ^ 53) ≤ y := (mul_le_mul_of_nonneg_left shrunk left).trans close.1
  have upper : y * (1 - 309 / 2 ^ 53) ≤ x := (mul_le_mul_of_nonneg_left shrunk right).trans close.2
  exact abs_le.mpr ⟨by linarith, by linarith⟩

end Near

section Range

variable {raw : Double} {m : ℤ} {x y : ℚ}

/-- Up to `10 ^ 308` the factor is the power of ten but for its roundings. -/
theorem scalesBy_close (small : m.natAbs ≤ 308) :
    ∃ c, ScalesBy m c ∧ Close m.natAbs (10 ^ m) c := by
  rcases tenToThe_near m.natAbs with ⟨past, -⟩ | ⟨t, power, near⟩
  · omega
  · have tenPow : (0 : ℚ) < 10 ^ m.natAbs := by positivity
    have positive := near.pos tenPow
    have close := near.close tenPow.le
    refine ⟨_, scalesBy_of_finite (small.trans_lt (by decide)) power positive, ?_⟩
    rw [tenPow_eq]
    split
    · exact close
    · exact close.inv tenPow positive

theorem normal_of_le (least : 10 ^ (-301 : ℤ) ≤ y) : 2 ^ 52 ≤ y * unitsPerOne := by
  have units : 10 ^ 301 * 2 ^ 52 ≤ unitsPerOne := by decide +kernel
  have cast : (10 ^ 301 * 2 ^ 52 : ℚ) ≤ unitsPerOne := by
    generalize unitsPerOne = one at units
    exact_mod_cast units
  have tenPow : (10 : ℚ) ^ (-301 : ℤ) = (10 ^ 301)⁻¹ := zpow_neg_coe_of_pos _ (by decide)
  rw [tenPow] at least
  calc
    (2 ^ 52 : ℚ) ≤ (10 ^ 301)⁻¹ * unitsPerOne := (le_inv_mul_iff₀ (by positivity)).mpr cast
    _ ≤ y * unitsPerOne := mul_le_mul_of_nonneg_right least unitsPerOne_cast_pos.le

theorem exists_nearest?_of_le_tenPow (nonneg : 0 ≤ y) (most : y ≤ 10 ^ 308) :
    ∃ q, nearest? y = some q := by
  refine Option.ne_none_iff_exists'.mp fun past => ?_
  exact ((nearest?_eq_none_iff nonneg).mp past).not_gt (most.trans_lt tenPow_lt_overflow)

theorem scale_close (held : raw.value? = some x) (small : m.natAbs ≤ 308)
    (least : 10 ^ (-300 : ℤ) ≤ |x * 10 ^ m|) (most : |x * 10 ^ m| ≤ 10 ^ 300) :
    ∃ q, scale raw m = some (finite raw.isNegative q) ∧
      Close (m.natAbs + 1) |x * 10 ^ m| q.value := by
  obtain ⟨c, factor, close⟩ := scalesBy_close small
  have size : |x * 10 ^ m| = |x| * 10 ^ m := by
    rw [abs_mul, abs_of_pos (zpow_pos (by norm_num : (0 : ℚ) < 10) m)]
  have product : Close m.natAbs |x * 10 ^ m| (|x| * c) := by
    rw [size]
    exact close.mul_left (abs_nonneg x)
  have nonneg : 0 ≤ |x| * c := mul_nonneg (abs_nonneg x) factor.nonneg
  obtain ⟨above, below⟩ := abs_le.mp (product.error (by omega) (abs_nonneg _) nonneg)
  have normal : 2 ^ 52 ≤ |x| * c * unitsPerOne := by
    apply normal_of_le
    calc
      (10 : ℚ) ^ (-301 : ℤ) = 10 ^ (-300 : ℤ) / 10 := zpow_sub_one₀ (by norm_num) (-300)
      _ ≤ |x * 10 ^ m| / 10 := div_le_div_of_nonneg_right least (by norm_num)
      _ ≤ |x| * c := by linarith only [above, abs_nonneg (x * 10 ^ m)]
  obtain ⟨q, rounded⟩ : ∃ q, nearest? (|x| * c) = some q := by
    apply exists_nearest?_of_le_tenPow nonneg
    calc
      |x| * c ≤ |x * 10 ^ m| * 10 := by linarith only [below, abs_nonneg (x * 10 ^ m)]
      _ ≤ 10 ^ 300 * 10 := mul_le_mul_of_nonneg_right most (by norm_num)
      _ = 10 ^ 301 := (pow_succ ..).symm
      _ ≤ 10 ^ 308 := pow_le_pow_right₀ (by norm_num) (by norm_num)
  refine ⟨q, ?_, product.round normal rounded⟩
  rw [factor.scale_eq held, rounded]
  rfl

theorem scale_zero (held : raw.value? = some 0) (least : -2 ^ 31 < m) (most : m ≤ 308) :
    ∃ v, scale raw m = some v ∧ v.value? = some 0 := by
  obtain ⟨c, factor⟩ := exists_scalesBy least most
  exact ⟨_, factor.scale_eq_zero held (by rw [abs_zero, zero_mul]), value?_zero _⟩

/-- Nothing moderate is lost or put out of range, whatever the size of the power of ten. -/
theorem scale_moderate (held : raw.value? = some x) (small : m.natAbs ≤ 308)
    (least : 10 ^ (-300 : ℤ) ≤ |x * 10 ^ m|) (most : |x * 10 ^ m| ≤ 10 ^ 300) :
    ∃ v y, scale raw m = some v ∧ v.value? = some y ∧
      |y - x * 10 ^ m| ≤ |x * 10 ^ m| / 10 ^ 12 ∧ 0 < y * (x * 10 ^ m) := by
  obtain ⟨q, scaled, close⟩ := scale_close held small least most
  have size : 0 < |x * 10 ^ m| := (zpow_pos (by norm_num) _).trans_le least
  have positive : 0 < q.value := (mul_pos size (pow_pos one_sub_epsilon_pos _)).trans_le close.1
  have error := close.error (by omega) size.le positive.le
  refine ⟨_, _, scaled, value?_finite _ q, ?_⟩
  obtain ⟨s, p, rfl, rfl⟩ := exists_finite_of_value? held
  have product : |(if s then -p.value else p.value) * 10 ^ m| = p.value * 10 ^ m := by
    rw [abs_mul, abs_signed s p.value_nonneg, abs_of_pos (zpow_pos (by norm_num : (0 : ℚ) < 10) m)]
  rw [product] at size error ⊢
  cases s with
  | false => exact ⟨error, mul_pos positive size⟩
  | true =>
      constructor
      · rw [abs_sub_comm] at error
        simpa [isNegative, neg_add_eq_sub] using error
      · simpa [isNegative] using mul_pos positive size

/-- A zero stays zero, and a product that is neither tiny nor huge is within one part in `10 ^ 12`,
as long as the power of ten is a double. The one exponent that does not fit 32 bits when its sign is
dropped makes nothing of any number. -/
theorem scale_in_range (held : raw.value? = some x) :
    (m = -2 ^ 31 → scale raw m = none) ∧
      (x * 10 ^ m = 0 → -2 ^ 31 < m → m ≤ 308 → ∃ v, scale raw m = some v ∧ v.value? = some 0) ∧
      (|m| ≤ 308 → 10 ^ (-300 : ℤ) ≤ |x * 10 ^ m| → |x * 10 ^ m| ≤ 10 ^ 300 →
        ∃ v y, scale raw m = some v ∧ v.value? = some y ∧
          |y - x * 10 ^ m| ≤ |x * 10 ^ m| / 10 ^ 12 ∧ 0 < y * (x * 10 ^ m)) := by
  refine ⟨?_, ?_, ?_⟩
  · rintro rfl
    exact scale_of_not_fits raw (by decide)
  · intro zero
    have tenPow : (0 : ℚ) < 10 ^ m := zpow_pos (by norm_num) m
    obtain rfl := (mul_eq_zero.mp zero).resolve_right tenPow.ne'
    exact scale_zero held
  · intro small
    rw [Int.abs_eq_natAbs] at small
    exact scale_moderate held (by omega)

theorem scale_in_range_edges :
    scale (ofInt 0) (-2 ^ 31) = none ∧
      (∃ v, scale (ofInt 0) 308 = some v ∧ v.value? = some 0) ∧
      ∃ v y, scale (ofInt 1) (-300) = some v ∧ v.value? = some y ∧
        |y - 10 ^ (-300 : ℤ)| ≤ 10 ^ (-300 : ℤ) / 10 ^ 12 ∧ 0 < y * 10 ^ (-300 : ℤ) := by
  have zero : (ofInt 0).value? = some 0 := value?_ofInt (n := 0) (by decide)
  have one : (ofInt 1).value? = some 1 := value?_ofInt (n := 1) (by decide)
  have size : |1 * (10 : ℚ) ^ (-300 : ℤ)| = 10 ^ (-300 : ℤ) := by
    rw [one_mul, abs_of_pos (zpow_pos (by norm_num) _)]
  refine ⟨(scale_in_range zero).1 rfl, ?_, ?_⟩
  · exact (scale_in_range zero).2.1 (zero_mul _) (by decide) (le_refl 308)
  · have moderate := (scale_in_range (m := -300) one).2.2 (by decide)
    rw [size, one_mul] at moderate
    refine moderate (le_refl _) ?_
    rw [← zpow_natCast]
    exact zpow_le_zpow_right₀ (by norm_num) (by norm_num)

/-- From `10 ^ 309` on no roundings bring the power back to a double. -/
theorem Within.overflow_le {n : ℕ} (near : Within n (10 ^ n) y) (past : 308 < n) : overflow ≤ y := by
  have power : (2 * 2 ^ 1024 : ℕ) ≤ 10 ^ 309 := by decide +kernel
  have cast : (2 * 2 ^ 1024 : ℚ) ≤ 10 ^ 309 := by exact_mod_cast power
  have half : (1 / 2 : ℚ) ≤ (1 - epsilon) ^ 309 :=
    le_trans (by norm_num) (le_roundings (le_refl 309))
  have factor : (1 : ℚ) ≤ 10 * (1 - epsilon) := by
    unfold epsilon
    norm_num
  calc
    overflow ≤ 2 ^ 1024 := sub_le_self _ (by positivity)
    _ ≤ 10 ^ 309 * (1 / 2) := by rwa [mul_one_div, le_div_iff₀' two_pos]
    _ ≤ 10 ^ 309 * (1 - epsilon) ^ 309 := mul_le_mul_of_nonneg_left half (by positivity)
    _ = (10 * (1 - epsilon)) ^ 309 := (mul_pow ..).symm
    _ ≤ (10 * (1 - epsilon)) ^ n := pow_le_pow_right₀ factor past
    _ = 10 ^ n * (1 - epsilon) ^ n := mul_pow ..
    _ ≤ y := near.1

theorem tenToThe_infinite {n : ℕ} (past : 308 < n) : tenToThe n = infinite false := by
  rcases tenToThe_near n with ⟨-, power⟩ | ⟨t, -, near⟩
  · exact power
  · obtain ⟨q, found, -⟩ := nearest?_of_value_eq (p := t) rfl
    rw [(nearest?_eq_none_iff t.value_nonneg).mpr (near.overflow_le past)] at found
    cases found

/-- A zero has no value next to an exponent that does not fit, or to an infinite power; and divided by
an infinite power `10 ^ 10` becomes zero, although `10 ^ (-299)` is no tiny number. -/
theorem scale_loses_products :
    ((ofInt 0).value? = some 0 ∧ scale (ofInt 0) (-2 ^ 31) = none ∧ scale (ofInt 0) 309 = none) ∧
      (ofInt 10000000000).value? = some 10000000000 ∧
      ∃ v, scale (ofInt 10000000000) (-309) = some v ∧ v.value? = some 0 := by
  have held : (ofInt 10000000000).value? = some 10000000000 :=
    value?_ofInt (n := 10000000000) (by decide)
  refine ⟨⟨value?_ofInt (n := 0) (by decide), scale_of_not_fits _ (by decide), ?_⟩, held, ?_⟩
  · exact scale_of_infinite _ (by decide) (tenToThe_infinite (by decide)) (by decide)
  · have factor : ScalesBy (-309) 0 :=
      scalesBy_zero (by decide) (tenToThe_infinite (by decide)) (by decide)
    exact ⟨_, factor.scale_eq_zero held (mul_zero _), value?_zero _⟩

end Range

end Double
end SensorThresholds
