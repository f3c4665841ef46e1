import SensorThresholds.Proofs.Nearest
import Mathlib.Algebra.Order.Field.Power
import Mathlib.Algebra.Order.Floor.Semifield

/-!
The shortest decimal of a double is found on every double, reads back as that double, and is the
only candidate wherever its grid has no other point that reads back.
-/

namespace SensorThresholds
namespace Decimal

open Magnitude

/-- The number that a decimal is. -/
def value (d : Decimal) : ℚ := d.digits * 10 ^ d.exponent

variable {d : Decimal} {m : Magnitude}

theorem value_nonneg (d : Decimal) : 0 ≤ d.value :=
  mul_nonneg (Nat.cast_nonneg _) (zpow_nonneg (by norm_num) _)

theorem quarters_pos (d : Decimal) : 0 < d.quarters.2 := Nat.pow_pos (by decide)

theorem quarters_eq (d : Decimal) :
    (d.quarters.1 : ℚ) = d.value * (4 * unitsPerOne * d.quarters.2) := by
  have power : (10 : ℚ) ^ d.exponent.toNat = 10 ^ d.exponent * 10 ^ (-d.exponent).toNat := by
    rw [← zpow_natCast, ← zpow_natCast, ← zpow_add₀ (by norm_num)]
    congr 1
    omega
  simp only [quarters, value, Nat.pow_eq, Nat.cast_mul, Nat.cast_pow, Nat.cast_ofNat, power]
  ring

/-- A decimal reads as `m` exactly if `m` is the double nearest to it. -/
theorem readsAs_iff : d.readsAs m = true ↔ m.Attracts d.value := by
  rw [← spans_iff_attracts d.quarters_pos d.quarters_eq]
  simp [readsAs, Spans]

section Grid

variable {tie : Tie} {e : ℤ}

theorem tenPow_pos (e : ℤ) : (0 : ℚ) < 10 ^ e := zpow_pos (by norm_num) e

theorem value_le_value_iff {a b : ℕ} : value ⟨a, e⟩ ≤ value ⟨b, e⟩ ↔ a ≤ b := by
  rw [value, value, mul_le_mul_iff_left₀ (tenPow_pos e), Nat.cast_le]

theorem value_next (d : Decimal) : d.next.value = d.value + 10 ^ d.exponent := by
  simp only [value, next, Nat.cast_add_one, add_mul, one_mul]

/-- The last grid point up to `m` has the whole part of the quotient as its digits. -/
theorem lastUpTo_eq (m : Magnitude) (e : ℤ) : lastUpTo m e = ⟨⌊m.value / 10 ^ e⌋₊, e⟩ := by
  have one := quarters_eq ⟨1, e⟩
  rw [value, Nat.cast_one, one_mul] at one
  unfold lastUpTo
  dsimp only
  have positive := quarters_pos ⟨1, e⟩
  generalize (quarters ⟨1, e⟩).1 = step at one
  generalize (quarters ⟨1, e⟩).2 = den at one positive
  have scale : (0 : ℚ) < 4 * unitsPerOne * den :=
    mul_pos (mul_pos four_pos unitsPerOne_cast_pos) (Nat.cast_pos.mpr positive)
  have number : ((4 * m.units * den : ℕ) : ℚ) = m.value * (4 * unitsPerOne * den) := by
    rw [Nat.cast_mul, Nat.cast_mul, m.units_eq, Nat.cast_ofNat]
    ring
  rw [← Nat.floor_div_eq_div (K := ℚ), number, one, mul_div_mul_right _ _ scale.ne']

theorem lastUpTo_le (m : Magnitude) (e : ℤ) : (lastUpTo m e).value ≤ m.value := by
  have quotient := Nat.floor_le (div_nonneg m.value_nonneg (tenPow_pos e).le)
  rw [lastUpTo_eq, value]
  rwa [le_div_iff₀ (tenPow_pos e)] at quotient

theorem lt_next_lastUpTo (m : Magnitude) (e : ℤ) : m.value < (lastUpTo m e).next.value := by
  have quotient := Nat.lt_floor_add_one (m.value / 10 ^ e)
  rw [div_lt_iff₀ (tenPow_pos e)] at quotient
  rw [lastUpTo_eq, value]
  push_cast [next]
  exact quotient

theorem readsAs_of_onGrid? (found : onGrid? tie m e = some d) :
    d.readsAs m = true ∧ d.exponent = e := by
  have grid : (lastUpTo m e).exponent = e := rfl
  have grid' : (lastUpTo m e).next.exponent = e := rfl
  unfold onGrid? at found
  dsimp only at found
  split at found
  · next below =>
      split at found
      · next above =>
          rw [Bool.and_eq_true] at above
          exact Option.some.inj found ▸ ⟨above.1, grid'⟩
      · exact Option.some.inj found ▸ ⟨below, grid⟩
  · split at found
    · next above => exact Option.some.inj found ▸ ⟨above, grid'⟩
    · cases found

/-- A grid with any point that reads as `m` has one among the two next to `m`. -/
theorem exists_onGrid? {c : ℕ} (reads : readsAs ⟨c, e⟩ m = true) (tie : Tie) :
    ∃ d, onGrid? tie m e = some d := by
  have either : (lastUpTo m e).readsAs m = true ∨ (lastUpTo m e).next.readsAs m = true := by
    have below := lastUpTo_le m e
    have above := lt_next_lastUpTo m e
    simp only [readsAs_iff] at reads ⊢
    rw [lastUpTo_eq] at below above ⊢
    generalize ⌊m.value / 10 ^ e⌋₊ = k at below above
    rcases Nat.lt_or_ge k c with past | upTo
    · exact .inr (m.attracts_value.convex reads above.le (value_le_value_iff.mpr past))
    · exact .inl (reads.convex m.attracts_value (value_le_value_iff.mpr upTo) below)
  unfold onGrid?
  dsimp only
  split
  · split <;> exact ⟨_, rfl⟩
  · next below =>
      rw [if_pos (either.resolve_left below)]
      exact ⟨_, rfl⟩

/-- A grid that is fine enough has a point that reads as `m`. -/
theorem readsAs_lastUpTo (nonzero : m.significand ≠ 0) (fine : 10 ^ e ≤ m.ulp / 4) :
    (lastUpTo m e).readsAs m = true := by
  have above := lt_next_lastUpTo m e
  have below := lastUpTo_le m e
  have lower := lower_le nonzero
  have distance := m.ulp_pos
  rw [value_next, show (lastUpTo m e).exponent = e from rfl] at above
  rw [readsAs_iff]
  left
  rw [upper_eq]
  constructor <;> linarith

end Grid

section Scale

theorem zpow_near_one {r : ℚ} (low : 1 ≤ r) (high : r ≤ 2) {n : ℕ} {t : ℤ}
    (small : t.natAbs ≤ n) : r ^ t ≤ 2 ^ n ∧ r ^ (-t) ≤ 2 ^ n := by
  have two : r ^ n ≤ 2 ^ n := pow_le_pow_left₀ (zero_le_one.trans low) high n
  have most : r ^ t ≤ r ^ (n : ℤ) := zpow_le_zpow_right₀ low (by omega)
  have least : r ^ (-t) ≤ r ^ (n : ℤ) := zpow_le_zpow_right₀ low (by omega)
  rw [zpow_natCast] at most least
  exact ⟨most.trans two, least.trans two⟩

variable {n k : ℕ} {t e : ℤ}

/-- Where `10 ^ k` is within twice `2 ^ n`, powers of it are within a factor of `2 ^ n` of those of
`2 ^ n`, up to the exponent `n`. -/
theorem tenPow_near_twoPow (low : 2 ^ n ≤ 10 ^ k) (high : 10 ^ k ≤ 2 ^ (n + 1))
    (small : t.natAbs ≤ n) :
    ((10 : ℚ) ^ k) ^ t ≤ (2 * 2 ^ t) ^ n ∧ ((2 : ℚ) ^ t) ^ n ≤ 2 ^ n * (10 ^ k) ^ t := by
  have two : (0 : ℚ) < 2 ^ n := by positivity
  have least : (1 : ℚ) ≤ 10 ^ k / 2 ^ n := by
    rw [le_div_iff₀ two, one_mul]
    exact_mod_cast low
  have most : (10 : ℚ) ^ k / 2 ^ n ≤ 2 := by
    rw [div_le_iff₀ two, ← pow_succ']
    exact_mod_cast high
  obtain ⟨up, down⟩ := zpow_near_one least most small
  have power : ((2 : ℚ) ^ t) ^ n = (2 ^ n) ^ t := by
    rw [← zpow_natCast, ← zpow_natCast, ← zpow_mul, ← zpow_mul, mul_comm]
  have base : (0 : ℚ) < (2 ^ n) ^ t := zpow_pos two t
  have whole : (0 : ℚ) < (10 ^ k) ^ t := zpow_pos (by positivity) t
  rw [div_zpow, div_le_iff₀ base] at up
  rw [zpow_neg, div_zpow, inv_div, div_le_iff₀ whole] at down
  rw [mul_pow, power]
  exact ⟨up, down⟩

theorem tenPow_mul (e : ℤ) (n : ℕ) : ((10 : ℚ) ^ e) ^ n = 10 ^ (e * n) := by
  rw [← zpow_natCast, ← zpow_mul]

theorem tenPow_mul' (k : ℕ) (t : ℤ) : ((10 : ℚ) ^ k) ^ t = 10 ^ (t * k) := by
  rw [← zpow_natCast, ← zpow_mul, mul_comm]

theorem tenPow_le_twoPow (positive : 0 < n) (low : 2 ^ n ≤ 10 ^ k) (high : 10 ^ k ≤ 2 ^ (n + 1))
    (small : t.natAbs ≤ n) (below : e * n ≤ t * k) : (10 : ℚ) ^ e ≤ 2 * 2 ^ t := by
  have near := (tenPow_near_twoPow low high small).1
  refine le_of_pow_le_pow_left₀ positive.ne' (by positivity) ?_
  calc
    ((10 : ℚ) ^ e) ^ n = 10 ^ (e * n) := tenPow_mul e n
    _ ≤ 10 ^ (t * k) := zpow_le_zpow_right₀ (by norm_num) below
    _ ≤ (2 * 2 ^ t) ^ n := tenPow_mul' k t ▸ near

theorem twoPow_le_tenPow (positive : 0 < n) (low : 2 ^ n ≤ 10 ^ k) (high : 10 ^ k ≤ 2 ^ (n + 1))
    (small : t.natAbs ≤ n) (above : t * k ≤ e * n) : (2 : ℚ) ^ t ≤ 2 * 10 ^ e := by
  have near := (tenPow_near_twoPow low high small).2
  refine le_of_pow_le_pow_left₀ positive.ne' (by positivity) ?_
  calc
    ((2 : ℚ) ^ t) ^ n ≤ 2 ^ n * 10 ^ (t * k) := tenPow_mul' k t ▸ near
    _ ≤ 2 ^ n * 10 ^ (e * n) :=
      mul_le_mul_of_nonneg_left (zpow_le_zpow_right₀ (by norm_num) above) (by positivity)
    _ = (2 * 10 ^ e) ^ n := by rw [mul_pow, tenPow_mul]

/-- The powers that are compared to choose the coarsest grid. The exponents are variables, so that
nothing evaluates the powers. -/
theorem exists_near_powers : ∃ n k : ℕ, n = 100000 ∧ k = 30103 ∧ 2 ^ n ≤ 10 ^ k ∧
    10 ^ k ≤ 2 ^ (n + 1) :=
  ⟨100000, 30103, rfl, rfl, by decide +kernel, by decide +kernel⟩

/-- The exponent of the power of two after `m`. -/
def scaleOf (m : Magnitude) : ℤ := m.units.log2 + 1 - 1074

theorem coarsest_eq (m : Magnitude) : coarsest m = scaleOf m * 30103 / 100000 + 1 := rfl

theorem value_scale (nonzero : m.significand ≠ 0) :
    2 ^ scaleOf m ≤ 2 * m.value ∧ m.value < 2 ^ scaleOf m := by
  have units : m.units ≠ 0 := by
    rw [m.units_eq_mul]
    exact Nat.mul_ne_zero nonzero (Nat.two_pow_pos _).ne'
  have low : (2 : ℚ) ^ m.units.log2 ≤ m.units := by exact_mod_cast Nat.log2_self_le units
  have high : (m.units : ℚ) < 2 ^ (m.units.log2 + 1) := by exact_mod_cast Nat.lt_log2_self
  obtain ⟨unit, one, bound⟩ : ∃ n, unitsPerOne = 2 ^ n ∧ n = 1074 := ⟨1074, by decide +kernel, rfl⟩
  have scale : (2 : ℚ) ^ scaleOf m = 2 ^ (m.units.log2 + 1) / 2 ^ unit := by
    rw [scaleOf, ← zpow_natCast, ← zpow_natCast, ← zpow_sub₀ two_ne_zero, bound]
    push_cast
    rfl
  have positive : (0 : ℚ) < 2 ^ unit := by positivity
  rw [scale, Magnitude.value, one, Nat.cast_pow, Nat.cast_two]
  constructor
  · rw [pow_succ', mul_div_assoc', div_le_div_iff_of_pos_right positive]
    exact mul_le_mul_of_nonneg_left low zero_le_two
  · exact (div_lt_div_iff_of_pos_right positive).mpr high

theorem scaleOf_small (m : Magnitude) : (scaleOf m).natAbs ≤ 1100 := by
  have bound : m.units.log2 < 2098 := by
    by_cases zero : m.units = 0
    · rw [zero, Nat.log2_zero]
      decide
    · rw [Nat.log2_lt zero]
      calc
        m.units = m.significand * 2 ^ m.shift := m.units_eq_mul
        _ < 2 ^ 53 * 2 ^ m.shift := Nat.mul_lt_mul_of_pos_right m.significand_lt (Nat.two_pow_pos _)
        _ = 2 ^ (53 + m.shift) := (Nat.pow_add ..).symm
        _ ≤ 2 ^ 2098 := Nat.pow_le_pow_right Nat.zero_lt_two (by have := m.canonical.2.1; omega)
  unfold scaleOf
  omega

/-- The coarsest grid is past `m`, and not far past it. -/
theorem coarsest_bounds (m : Magnitude) :
    (2 : ℚ) ^ scaleOf m ≤ 2 * 10 ^ coarsest m ∧ (10 : ℚ) ^ coarsest m ≤ 20 * 2 ^ scaleOf m := by
  obtain ⟨n, k, sameN, sameK, low, high⟩ := exists_near_powers
  have small := scaleOf_small m
  have above : scaleOf m * k ≤ coarsest m * n := by
    rw [sameN, sameK, coarsest_eq]
    omega
  have below : (coarsest m - 1) * n ≤ scaleOf m * k := by
    rw [sameN, sameK, coarsest_eq]
    omega
  refine ⟨twoPow_le_tenPow (by omega) low high (by omega) above, ?_⟩
  have near := tenPow_le_twoPow (by omega) low high (by omega) below
  rw [zpow_sub_one₀ (by norm_num)] at near
  linarith

end Scale

/-- The first of a range for which there is a result. -/
theorem exists_first_of_findSome? {α : Type} {f : ℕ → Option α} {k : ℕ} {a : α}
    (found : (List.range k).findSome? f = some a) :
    ∃ n < k, f n = some a ∧ ∀ i < n, f i = none := by
  induction k with
  | zero => cases found
  | succ k ih =>
      rw [List.range_succ, List.findSome?_append] at found
      cases earlier : (List.range k).findSome? f with
      | some b =>
          rw [earlier] at found
          obtain rfl := Option.some.inj found
          obtain ⟨n, less, rest⟩ := ih earlier
          exact ⟨n, by omega, rest⟩
      | none =>
          rw [earlier, Option.none_or, List.findSome?_singleton] at found
          refine ⟨k, Nat.lt_succ_self k, found, fun i less => ?_⟩
          exact List.findSome?_eq_none_iff.mp earlier i (List.mem_range.mpr less)

section Shortest

variable {tie : Tie}

theorem shortest_of_zero (zero : m.significand = 0) (tie : Tie) : shortest tie m = ⟨0, 0⟩ := by
  rw [shortest, if_pos (by rw [isZero, zero]; rfl)]

theorem readsAs_finest (nonzero : m.significand ≠ 0) :
    (lastUpTo m (coarsest m - 19)).readsAs m = true := by
  refine readsAs_lastUpTo nonzero ?_
  have past := (coarsest_bounds m).2
  have scale := (value_scale nonzero).1
  have digits : (m.significand : ℚ) ≤ 2 ^ 53 := by exact_mod_cast m.significand_lt.le
  have most : m.value ≤ 2 ^ 53 * m.ulp := by
    rw [m.value_eq]
    exact mul_le_mul_of_nonneg_right digits m.ulp_pos.le
  rw [zpow_sub₀ (by norm_num), div_le_iff₀ (by norm_num)]
  calc
    (10 : ℚ) ^ coarsest m ≤ 40 * (2 ^ 53 * m.ulp) := by linarith
    _ ≤ m.ulp / 4 * 10 ^ (19 : ℤ) := by
      have distance := m.ulp_pos
      norm_num
      linarith

/-- The shortest decimal is on a grid, and no coarser grid that is tried has a point. -/
theorem shortest_onGrid (nonzero : m.significand ≠ 0) (tie : Tie) :
    ∃ e, coarsest m - 19 ≤ e ∧ e ≤ coarsest m ∧ onGrid? tie m e = some (shortest tie m) ∧
      ∀ e', e < e' → e' ≤ coarsest m → onGrid? tie m e' = none := by
  have searched : shortest tie m =
      ((List.range 20).findSome? fun n : ℕ => onGrid? tie m (coarsest m - n)).getD ⟨0, 0⟩ := by
    rw [shortest, if_neg (by simpa [isZero] using nonzero)]
    dsimp only
    rw [List.findSome?_map, Function.comp_def]
  cases found : (List.range 20).findSome? fun n : ℕ => onGrid? tie m (coarsest m - n) with
  | none =>
      obtain ⟨d, point⟩ := exists_onGrid? (readsAs_finest nonzero) tie
      have missing := List.findSome?_eq_none_iff.mp found 19 (by decide)
      rw [Nat.cast_ofNat, point] at missing
      cases missing
  | some d =>
      obtain ⟨n, less, point, earlier⟩ := exists_first_of_findSome? found
      rw [found, Option.getD_some] at searched
      refine ⟨coarsest m - n, by omega, by omega, searched ▸ point, fun e' above most => ?_⟩
      have none := earlier (coarsest m - e').toNat (by omega)
      rwa [show coarsest m - ((coarsest m - e').toNat : ℤ) = e' by omega] at none

/-- The shortest decimal of a double reads back as that double. -/
theorem shortest_readsAs (tie : Tie) (m : Magnitude) : (shortest tie m).readsAs m = true := by
  by_cases zero : m.significand = 0
  · rw [shortest_of_zero zero, readsAs_iff, value, Nat.cast_zero, zero_mul]
    have exact := m.attracts_value
    rwa [m.value_eq, zero, Nat.cast_zero, zero_mul] at exact
  · obtain ⟨e, -, -, point, -⟩ := shortest_onGrid zero tie
    exact (readsAs_of_onGrid? point).1

/-- A point of a coarse grid is on every finer one, with zeros at its end. -/
theorem value_pad (c : ℕ) {fine coarse : ℤ} (order : fine ≤ coarse) :
    value ⟨c * 10 ^ (coarse - fine).toNat, fine⟩ = value ⟨c, coarse⟩ := by
  have power : (10 : ℚ) ^ coarse = 10 ^ (coarse - fine).toNat * 10 ^ fine := by
    rw [← zpow_natCast, ← zpow_add₀ (by norm_num)]
    congr 1
    omega
  rw [value, value, power]
  push_cast
  ring

/-- Digits that do not end in zero, on a grid where nothing else reads as `m`. -/
structure Sole (d : Decimal) (m : Magnitude) : Prop where
  reads : d.readsAs m = true
  unpadded : ¬ 10 ∣ d.digits
  only : ∀ c, readsAs ⟨c, d.exponent⟩ m = true → c = d.digits

namespace Sole

variable (sole : d.Sole m)
include sole

/-- No coarser grid has a point that reads as `m`. -/
theorem not_coarser {c : ℕ} {e : ℤ} (reads : readsAs ⟨c, e⟩ m = true) : e ≤ d.exponent := by
  by_contra past
  rw [readsAs_iff, ← value_pad c (Int.le_of_lt (Int.not_le.mp past)), ← readsAs_iff] at reads
  apply sole.unpadded
  rw [← sole.only _ reads]
  exact Dvd.dvd.mul_left (dvd_pow_self 10 (by omega)) c

theorem digits_pos : 0 < d.digits := by
  apply Nat.pos_of_ne_zero
  intro zero
  exact sole.unpadded (zero ▸ dvd_zero 10)

theorem significand_ne_zero : m.significand ≠ 0 := by
  intro zero
  have exact := m.attracts_value
  have none : m.value = value ⟨0, d.exponent⟩ := by
    rw [m.value_eq, zero, value, Nat.cast_zero, zero_mul, zero_mul]
  rw [none, ← readsAs_iff] at exact
  exact sole.digits_pos.ne (sole.only 0 exact)

theorem exponent_le : d.exponent ≤ coarsest m := by
  have nonzero := sole.significand_ne_zero
  have most := (readsAs_iff.mp sole.reads).bounds.2
  have scale := (value_scale nonzero).2
  have grid := (coarsest_bounds m).1
  have one : m.ulp ≤ m.value := by
    rw [m.value_eq]
    exact le_mul_of_one_le_left m.ulp_pos.le (by exact_mod_cast Nat.pos_of_ne_zero nonzero)
  have step : (10 : ℚ) ^ d.exponent ≤ d.value :=
    le_mul_of_one_le_left (tenPow_pos _).le (by exact_mod_cast sole.digits_pos)
  have less : (10 : ℚ) ^ d.exponent < 10 ^ (coarsest m + 1) := by
    have positive := tenPow_pos (coarsest m)
    rw [zpow_add_one₀ (by norm_num)]
    rw [upper_eq] at most
    linarith
  have order := (zpow_lt_zpow_iff_right₀ (by norm_num)).mp less
  omega

/-- Such digits are the shortest, whichever way ties go. -/
theorem shortest_eq (tie : Tie) : shortest tie m = d := by
  have nonzero := sole.significand_ne_zero
  have most := sole.exponent_le
  obtain ⟨e, -, -, point, coarser⟩ := shortest_onGrid nonzero tie
  obtain ⟨reads, grid⟩ := readsAs_of_onGrid? point
  have exponent : (shortest tie m).exponent = d.exponent := by
    have least : e ≤ d.exponent := grid ▸ sole.not_coarser reads
    rcases least.lt_or_eq with finer | same
    · obtain ⟨d', found⟩ := exists_onGrid? (c := d.digits) sole.reads tie
      rw [coarser _ finer most] at found
      cases found
    · exact grid.trans same
  have digits : (shortest tie m).digits = d.digits := by
    refine sole.only _ ?_
    rw [← exponent]
    exact reads
  calc
    shortest tie m = ⟨(shortest tie m).digits, (shortest tie m).exponent⟩ := rfl
    _ = d := by rw [digits, exponent]

end Sole

/-- Two points of a grid that read as one double are at most an ulp apart. -/
theorem tenPow_le_ulp {a c : ℕ} {e : ℤ} (different : a ≠ c)
    (first : readsAs ⟨a, e⟩ m = true) (second : readsAs ⟨c, e⟩ m = true) : 10 ^ e ≤ m.ulp := by
  obtain ⟨least, most⟩ := (readsAs_iff.mp first).bounds
  obtain ⟨least', most'⟩ := (readsAs_iff.mp second).bounds
  have lower := m.le_lower
  rw [upper_eq] at most most'
  have apart {x y : ℕ} (less : x < y) : value ⟨x, e⟩ + 10 ^ e ≤ value ⟨y, e⟩ := by
    rw [← value_next ⟨x, e⟩]
    exact value_le_value_iff.mpr less
  rcases Nat.lt_or_gt_of_ne different with less | greater
  · have step := apart less
    linarith
  · have step := apart greater
    linarith

/-- Decimals of at most fifteen digits do not share a double. -/
theorem eq_of_readsAs {a c : ℕ} {e : ℤ} (few : a < 10 ^ 15) (least : -300 ≤ e)
    (first : readsAs ⟨a, e⟩ m = true) (second : readsAs ⟨c, e⟩ m = true) : c = a := by
  by_contra different
  have narrow := tenPow_le_ulp (Ne.symm different) first second
  by_cases finest : m.shift = 0
  · -- Here doubles are closer together than any decimals with these exponents.
    have unit : 1 < (10 : ℚ) ^ (-300 : ℤ) * unitsPerOne := by
      have power : 10 ^ 300 < unitsPerOne := by decide +kernel
      rw [zpow_neg, inv_mul_eq_div, one_lt_div (by positivity)]
      exact_mod_cast power
    have coarse : (10 : ℚ) ^ (-300 : ℤ) ≤ 10 ^ e := zpow_le_zpow_right₀ (by norm_num) least
    rw [ulp, finest, pow_zero, le_div_iff₀ unitsPerOne_cast_pos] at narrow
    have product := mul_le_mul_of_nonneg_right coarse unitsPerOne_cast_pos.le
    linarith only [unit, narrow, product]
  · -- Elsewhere the significand is full, and that is more than fifteen digits.
    have full : 2 ^ 52 * m.ulp ≤ m.value := by
      rw [m.value_eq]
      refine mul_le_mul_of_nonneg_right ?_ m.ulp_pos.le
      exact_mod_cast m.canonical.2.2.resolve_left finest
    have lower := m.le_lower.trans (readsAs_iff.mp first).bounds.1
    have digits : value ⟨a, e⟩ ≤ 10 ^ 15 * m.ulp := by
      refine mul_le_mul ?_ narrow (tenPow_pos e).le (by norm_num)
      exact_mod_cast few.le
    have distance := m.ulp_pos
    linarith

end Shortest

end Decimal
end SensorThresholds
