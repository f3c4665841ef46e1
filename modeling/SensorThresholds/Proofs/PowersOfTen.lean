import SensorThresholds.Proofs.Arithmetic

/-!
Powers of ten by repeated squaring. Up to `10 ^ 22` they are exact. Past that each product may round,
and `10 ^ n` comes out within `n` roundings, or infinite from `10 ^ 309` on.
-/

namespace SensorThresholds
namespace Double

open Magnitude

/-- What holds of the accumulator and of the base, and goes over to their products, holds of the
power: `P` counts the factors of the accumulator, and `Q` those of the base. -/
theorem mulPower_induction {P Q : ℕ → Double → Prop}
    (square : ∀ j base, Q j base → Q (j + j) (base * base))
    (step : ∀ i j acc base, P i acc → Q j base → P (i + j) (acc * base))
    {i j : ℕ} {acc base : Double} (n : ℕ) (start : P i acc) (factor : Q j base) :
    P (i + j * n) (mulPower acc base n) := by
  induction n using Nat.strong_induction_on generalizing i j acc base with
  | _ n ih =>
      have halves : n = 2 * (n / 2) + n % 2 := (Nat.div_add_mod n 2).symm
      rw [mulPower]
      have gathered : P (i + j * (n % 2)) (if n % 2 = 1 then acc * base else acc) := by
        rcases Nat.mod_two_eq_zero_or_one n with even | odd
        · rw [if_neg (by omega), even]
          exact start
        · rw [if_pos odd, odd, Nat.mul_one]
          exact step i j acc base start factor
      by_cases done : n / 2 = 0
      · rw [if_pos done]
        have total : i + j * (n % 2) = i + j * n := by rw [show n % 2 = n by omega]
        rwa [total] at gathered
      · rw [if_neg done]
        have later := ih (n / 2) (by omega) gathered (square j base factor)
        have total : i + j * (n % 2) + (j + j) * (n / 2) = i + j * n := by
          conv_rhs => rw [halves]
          ring
        rwa [total] at later

def IsTenPow (k : ℕ) (d : Double) : Prop := ∃ m : Magnitude, d = finite false m ∧ m.value = 10 ^ k

theorem IsTenPow.mul {i j : ℕ} {a b : Double} (small : i + j ≤ 22) (first : IsTenPow i a)
    (second : IsTenPow j b) : IsTenPow (i + j) (a * b) := by
  obtain ⟨m, rfl, left⟩ := first
  obtain ⟨n, rfl, right⟩ := second
  obtain ⟨p, power⟩ := exists_value_eq_tenPow small
  obtain ⟨q, rounded, exact⟩ := nearest?_of_value_eq power
  refine ⟨q, ?_, exact⟩
  rw [mul_finite, left, right, ← pow_add, rounded]
  rfl

theorem isTenPow_one : IsTenPow 0 (ofInt 1) := by
  obtain ⟨m, made, exact⟩ := exists_ofInt (n := 1) (by decide)
  exact ⟨m, made, by rw [exact]; rfl⟩

theorem isTenPow_ten : IsTenPow 1 (ofInt 10) := by
  obtain ⟨m, made, exact⟩ := exists_ofInt (n := 10) (by decide)
  exact ⟨m, made, by rw [exact]; rfl⟩

theorem tenToThe_exact {n : ℕ} (small : n ≤ 22) : IsTenPow n (tenToThe n) := by
  have step (i j : ℕ) (a b : Double) (first : i ≤ 22 → IsTenPow i a)
      (second : j ≤ 22 → IsTenPow j b) (bound : i + j ≤ 22) : IsTenPow (i + j) (a * b) :=
    (first (by omega)).mul bound (second (by omega))
  have power := mulPower_induction (fun j b factor => step j j b b factor factor) step n
    (fun _ => isTenPow_one) fun _ => isTenPow_ten
  rw [Nat.zero_add, Nat.one_mul] at power
  exact power small

/-- One part in `2 ^ 53`, the most that rounding changes a number. -/
def epsilon : ℚ := 1 / 2 ^ 53

theorem one_sub_epsilon_pos : 0 < 1 - epsilon := by
  unfold epsilon
  norm_num

theorem one_le_one_add_epsilon : 1 ≤ 1 + epsilon := by
  unfold epsilon
  norm_num

/-- The number `y` is `x` but for `w` roundings. -/
def Within (w : ℕ) (x y : ℚ) : Prop := x * (1 - epsilon) ^ w ≤ y ∧ y ≤ x * (1 + epsilon) ^ w

theorem Within.nonneg {w : ℕ} {x y : ℚ} (near : Within w x y) (nonneg : 0 ≤ x) : 0 ≤ y :=
  (mul_nonneg nonneg (pow_pos one_sub_epsilon_pos w).le).trans near.1

theorem Within.pos {w : ℕ} {x y : ℚ} (near : Within w x y) (positive : 0 < x) : 0 < y :=
  (mul_pos positive (pow_pos one_sub_epsilon_pos w)).trans_le near.1

theorem Within.mul {v w : ℕ} {x x' y y' : ℚ} (first : Within v x x') (second : Within w y y')
    (left : 0 ≤ x) (right : 0 ≤ y) : Within (v + w) (x * y) (x' * y') := by
  have shrunk := (pow_pos one_sub_epsilon_pos w).le
  have grown := pow_nonneg (zero_le_one.trans one_le_one_add_epsilon) v
  constructor
  · calc
      x * y * (1 - epsilon) ^ (v + w) = x * (1 - epsilon) ^ v * (y * (1 - epsilon) ^ w) := by ring
      _ ≤ x' * y' := mul_le_mul first.1 second.1 (mul_nonneg right shrunk) (first.nonneg left)
  · calc
      x' * y' ≤ x * (1 + epsilon) ^ v * (y * (1 + epsilon) ^ w) :=
        mul_le_mul first.2 second.2 (second.nonneg right) (mul_nonneg left grown)
      _ = x * y * (1 + epsilon) ^ (v + w) := by ring

/-- One more rounding, of a number that is not too small. -/
theorem Within.round {w : ℕ} {x y : ℚ} {m : Magnitude} (near : Within w x y) (large : 1 ≤ y)
    (rounded : nearest? y = some m) : Within (w + 1) x m.value := by
  have normal : 2 ^ 52 ≤ y * unitsPerOne := by
    have one : (2 ^ 52 : ℕ) ≤ unitsPerOne := by decide +kernel
    calc
      (2 ^ 52 : ℚ) ≤ unitsPerOne := by exact_mod_cast one
      _ ≤ y * unitsPerOne := le_mul_of_one_le_left (Nat.cast_nonneg _) large
  obtain ⟨down, up⟩ := nearest?_near normal rounded
  have lower : y * (1 - epsilon) ≤ m.value := by
    unfold epsilon
    linarith
  have upper : m.value ≤ y * (1 + epsilon) := by
    unfold epsilon
    linarith
  constructor
  · rw [pow_succ, ← mul_assoc]
    exact (mul_le_mul_of_nonneg_right near.1 one_sub_epsilon_pos.le).trans lower
  · rw [pow_succ, ← mul_assoc]
    exact upper.trans
      (mul_le_mul_of_nonneg_right near.2 (zero_le_one.trans one_le_one_add_epsilon))

/-- Of a power of ten, a rounding for each factor leaves a power of nine. -/
theorem Within.ninePow_le {w k : ℕ} {y : ℚ} (near : Within w (10 ^ k) y) (few : w ≤ k) :
    9 ^ k ≤ y := by
  have factor : (9 : ℚ) ≤ 10 * (1 - epsilon) ∧ (1 - epsilon : ℚ) ≤ 1 := by
    unfold epsilon
    norm_num
  calc
    (9 : ℚ) ^ k ≤ (10 * (1 - epsilon)) ^ k := pow_le_pow_left₀ (by norm_num) factor.1 k
    _ = 10 ^ k * (1 - epsilon) ^ k := mul_pow ..
    _ ≤ 10 ^ k * (1 - epsilon) ^ w :=
      mul_le_mul_of_nonneg_left (pow_le_pow_of_le_one one_sub_epsilon_pos.le factor.2 few)
        (by positivity)
    _ ≤ y := near.1

theorem tenPow_roundings_le {n h c : ℕ} (positive : 0 < h)
    (bound : 10 ^ n * (h + 1) ^ n ≤ c * h ^ n) : (10 : ℚ) ^ n * (1 + 1 / h) ^ n ≤ c := by
  have scale : (0 : ℚ) < h := by exact_mod_cast positive
  have sum : (1 + 1 / h : ℚ) = (h + 1) / h := by field_simp
  rw [sum, div_pow, ← mul_div_assoc, div_le_iff₀ (pow_pos scale n)]
  exact_mod_cast bound

/-- Roundings do not carry `10 ^ 308` past the largest double. -/
theorem Within.exists_above {w k : ℕ} {y : ℚ} (near : Within w (10 ^ k) y) (few : w ≤ k)
    (small : k ≤ 308) : ∃ p : Magnitude, y ≤ p.value := by
  obtain ⟨p, largest⟩ := exists_value_eq (c := 2 ^ 53 - 1) (e := 971) (by decide) (by decide) le_rfl
  have bound : (10 : ℚ) ^ 308 * (1 + 1 / (2 ^ 53 : ℕ)) ^ 308 ≤ ((2 ^ 53 - 1) * 2 ^ 971 : ℕ) :=
    tenPow_roundings_le (by decide) (by decide +kernel)
  rw [zpow_ofNat] at largest
  rw [Nat.cast_mul, Nat.cast_pow 2 971, Nat.cast_two, ← largest, Nat.cast_pow, Nat.cast_two,
    ← epsilon] at bound
  refine ⟨p, near.2.trans (le_trans ?_ bound)⟩
  refine mul_le_mul (pow_le_pow_right₀ (by norm_num) small)
    (pow_le_pow_right₀ one_le_one_add_epsilon (few.trans small)) (pow_nonneg ?_ w) (by positivity)
  exact zero_le_one.trans one_le_one_add_epsilon

/-- The power `10 ^ k` but for `w` roundings; or infinite, where that is too large. -/
def IsNearTenPow (w k : ℕ) (d : Double) : Prop :=
  (308 < k ∧ d = infinite false) ∨
    ∃ m : Magnitude, d = finite false m ∧ Within w (10 ^ k) m.value

theorem IsTenPow.near {k : ℕ} {d : Double} (exact : IsTenPow k d) : IsNearTenPow 0 k d := by
  obtain ⟨m, rfl, same⟩ := exact
  refine .inr ⟨m, rfl, ?_, ?_⟩ <;> rw [same, pow_zero, mul_one]

theorem IsNearTenPow.mul {v w i j : ℕ} {a b : Double} (few : v + w ≤ i + j)
    (first : IsNearTenPow v i a) (second : IsNearTenPow w j b) :
    IsNearTenPow (v + w + 1) (i + j) (a * b) := by
  have power (k : ℕ) : (0 : ℚ) < 10 ^ k := by positivity
  rcases first with ⟨large, rfl⟩ | ⟨m, rfl, left⟩
  · left
    rcases second with ⟨-, rfl⟩ | ⟨n, rfl, right⟩
    · exact ⟨by omega, mul_infinite ..⟩
    · exact ⟨by omega, infinite_mul_finite _ _ (right.pos (power j))⟩
  · rcases second with ⟨large, rfl⟩ | ⟨n, rfl, right⟩
    · exact .inl ⟨by omega, finite_mul_infinite _ _ (left.pos (power i))⟩
    · have product : Within (v + w) (10 ^ (i + j)) (m.value * n.value) := by
        rw [pow_add]
        exact left.mul right (power i).le (power j).le
      have large : 1 ≤ m.value * n.value :=
        (one_le_pow₀ (by norm_num)).trans (product.ninePow_le few)
      rw [mul_finite]
      cases rounded : nearest? (m.value * n.value) with
      | none =>
          left
          refine ⟨?_, rfl⟩
          by_contra small
          obtain ⟨p, above⟩ := product.exists_above few (by omega)
          obtain ⟨r, found⟩ := exists_nearest? (zero_le_one.trans large) above
          rw [found] at rounded
          cases rounded
      | some r => exact .inr ⟨r, rfl, product.round large rounded⟩

/-- Repeated squaring rounds at most `n` times on the way to `10 ^ n`. -/
theorem tenToThe_near (n : ℕ) : IsNearTenPow n n (tenToThe n) := by
  have square (j : ℕ) (b : Double) (factor : 1 ≤ j ∧ IsNearTenPow (j - 1) j b) :
      1 ≤ j + j ∧ IsNearTenPow (j + j - 1) (j + j) (b * b) := by
    have product := factor.2.mul (by omega) factor.2
    rw [show j - 1 + (j - 1) + 1 = j + j - 1 by omega] at product
    exact ⟨by omega, product⟩
  have step (i j : ℕ) (a b : Double) (start : IsNearTenPow i i a)
      (factor : 1 ≤ j ∧ IsNearTenPow (j - 1) j b) : IsNearTenPow (i + j) (i + j) (a * b) := by
    have product := start.mul (by omega) factor.2
    rwa [show i + (j - 1) + 1 = i + j by omega] at product
  have power := mulPower_induction square step n isTenPow_one.near ⟨le_refl 1, isTenPow_ten.near⟩
  rwa [Nat.zero_add, Nat.one_mul] at power

end Double
end SensorThresholds
