import SensorThresholds.Proofs.Arithmetic
import SensorThresholds.Proofs.Nearest

/-!
Rounding keeps the order of numbers, and fails exactly from half a step past the largest double on.
Below that it finds the double nearest to a number, of either sign.
-/

namespace SensorThresholds
namespace Magnitude

section Order

variable {x y : ℚ} {m p : Magnitude}

theorem nearest?_mono (nonneg : 0 ≤ x) (order : x ≤ y) (first : nearest? x = some m)
    (second : nearest? y = some p) : m.value ≤ p.value := by
  by_contra less
  have below := ((nearest?_eq_some_iff nonneg).mp first).bounds.1
  have above := ((nearest?_eq_some_iff (nonneg.trans order)).mp second).bounds.2
  have lower := halfway_le_lower (not_le.mp less)
  have upper := upper_le_halfway (not_le.mp less)
  obtain rfl : x = y := by linarith
  rw [first] at second
  exact less (Option.some.inj second ▸ le_refl _)

/-- What is not past a number that is rounded to a double is rounded to one. -/
theorem exists_nearest?_of_le (nonneg : 0 ≤ x) (order : x ≤ y) (rounded : nearest? y = some p) :
    ∃ m, nearest? x = some m := by
  rcases le_or_gt x p.value with below | above
  · exact exists_nearest? nonneg below
  · have attracted := (nearest?_eq_some_iff (nonneg.trans order)).mp rounded
    exact ⟨p, (nearest?_eq_some_iff nonneg).mpr (p.attracts_value.convex attracted above.le order)⟩

theorem value_zero : zero.value = 0 := by
  rw [value, show zero.units = 0 by decide, Nat.cast_zero, zero_div]

theorem nearest?_zero : nearest? 0 = some zero := by
  rw [nearest?_eq_some_iff le_rfl]
  simpa only [value_zero] using zero.attracts_value

def largest : Magnitude := ⟨2 ^ 53 - 1, 2045, by decide⟩

theorem value_le_largest (m : Magnitude) : m.value ≤ largest.value := by
  rw [value_le_value_iff, units_eq_mul, units_eq_mul]
  have digits : m.significand ≤ largest.significand := Nat.le_pred_of_lt m.significand_lt
  have shift : m.shift ≤ largest.shift := m.canonical.2.1
  exact Nat.mul_le_mul digits (Nat.pow_le_pow_right Nat.zero_lt_two shift)

/-- From here on numbers are nearer to `2 ^ 1024` than to the largest double, or as near. -/
def overflow : ℚ := 2 ^ 1024 - 2 ^ 970

theorem ulp_largest : largest.ulp = 2 ^ 971 := by
  obtain ⟨unit, one, bound⟩ : ∃ n, unitsPerOne = 2 ^ n ∧ n = 1074 := ⟨1074, by decide +kernel, rfl⟩
  have shift : largest.shift = 971 + unit := by rw [bound]; rfl
  rw [ulp, shift, one, Nat.cast_pow, Nat.cast_two, pow_add, mul_div_cancel_right₀]
  exact pow_ne_zero unit two_ne_zero

theorem upper_largest : largest.upper = overflow := by
  have digits : (largest.significand : ℚ) = 2 ^ 53 - 1 := by
    rw [show largest.significand = 2 ^ 53 - 1 from rfl]
    norm_num
  have double : (2 : ℚ) ^ 971 = 2 * 2 ^ 970 := pow_succ' ..
  have whole : (2 : ℚ) ^ 1024 = 2 ^ 53 * (2 * 2 ^ 970) := by
    rw [← double, ← pow_add]
  rw [upper_eq, value_eq, digits, ulp_largest, overflow, double, whole]
  generalize (2 : ℚ) ^ 970 = half
  ring

theorem nearest?_eq_none_iff (nonneg : 0 ≤ x) : nearest? x = none ↔ overflow ≤ x := by
  constructor
  · intro past
    by_contra below
    obtain ⟨m, rounded⟩ : ∃ m, nearest? x = some m := by
      rcases le_or_gt x largest.value with small | large
      · exact exists_nearest? nonneg small
      · refine ⟨largest, (nearest?_eq_some_iff nonneg).mpr (.inl ⟨?_, ?_⟩)⟩
        · linarith [largest.le_lower, largest.ulp_pos, lower_le (m := largest) (by decide)]
        · rw [upper_largest]
          exact not_le.mp below
    rw [rounded] at past
    cases past
  · intro past
    by_contra rounded
    obtain ⟨m, rounded⟩ := Option.ne_none_iff_exists'.mp rounded
    have attracted := (nearest?_eq_some_iff nonneg).mp rounded
    rcases m.value_le_largest.lt_or_eq with less | same
    · have halfway := upper_le_halfway less
      have above := attracted.bounds.2
      have last := upper_eq largest
      have step := largest.ulp_pos
      rw [upper_largest] at last
      linarith
    -- The significand of the largest double is odd, so that its interval has no ends.
    · rw [value_injective same] at attracted
      rcases attracted with ⟨-, below⟩ | ⟨even, -⟩
      · rw [upper_largest] at below
        linarith
      · exact absurd even (by decide)

end Order

end Magnitude

namespace Double

open Magnitude

def isNegative : Double → Bool
  | finite negative _ | infinite negative => negative
  | nan => false

/-- Whether the last bit of the significand is zero. -/
def IsEven : Double → Prop
  | finite _ m => m.significand % 2 = 0
  | _ => False

/-- No finite double is nearer to `x` than `d`; and `d` is even if another one is as near. -/
def IsNearest (d : Double) (x : ℚ) : Prop :=
  ∃ v, d.value? = some v ∧ ∀ (e : Double) (w : ℚ), e.value? = some w →
    |x - v| ≤ |x - w| ∧ (w ≠ v → |x - v| = |x - w| → d.IsEven)

theorem isNearest_of_nearest? (s : Bool) {x : ℚ} {q : Magnitude} (nonneg : 0 ≤ x)
    (rounded : nearest? x = some q) : (finite s q).IsNearest (if s then -x else x) := by
  refine ⟨_, value?_finite s q, fun e w held => ?_⟩
  obtain ⟨t, p, rfl, rfl⟩ := exists_finite_of_value? held
  have same : |(if s then -x else x) - (if s then -q.value else q.value)| = |x - q.value| := by
    cases s
    · rfl
    · rw [if_pos rfl, if_pos rfl, ← abs_neg]
      ring_nf
  have apart := abs_abs_sub_abs_le_abs_sub (if s then -x else x) (if t then -p.value else p.value)
  rw [abs_signed s nonneg, abs_signed t p.value_nonneg] at apart
  obtain ⟨closest, even⟩ := nearest?_closest nonneg rounded p
  rw [same]
  refine ⟨closest.trans apart, fun different tie => ?_⟩
  by_cases equal : p.value = q.value
  -- Only the sign is another one, and that makes a difference unless the number is zero.
  · have opposite : t = !s := by
      refine Bool.eq_not.mpr ?_
      rintro rfl
      exact different (by rw [equal])
    have sum : |x - q.value| = x + q.value := by
      rw [tie, equal, opposite, ← abs_of_nonneg (add_nonneg nonneg q.value_nonneg)]
      cases s with
      | false => simp
      | true =>
          rw [← abs_neg]
          simp [add_comm]
    have origin := (nearest?_closest nonneg rounded zero).1
    rw [value_zero, sub_zero, abs_of_nonneg nonneg, sum] at origin
    have none := q.isZero_iff.mpr (by linarith [q.value_nonneg])
    rw [IsEven, beq_iff_eq.mp none]
  · exact even equal (closest.antisymm (apart.trans tie.ge))

end Double
end SensorThresholds
