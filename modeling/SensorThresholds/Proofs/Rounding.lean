import SensorThresholds.Proofs.ExactValue

/-!
Rounding to the nearest double, once for an exact number. The result stays on the same side of every
number that is a double itself, and is off by at most one part in `2 ^ 53` where doubles are normal.
-/

namespace SensorThresholds

theorem roundEven_cases (num den : ℕ) :
    (roundEven num den = num / den ∧ 2 * (num % den) ≤ den) ∨
      (roundEven num den = num / den + 1 ∧ den ≤ 2 * (num % den)) := by
  unfold roundEven
  dsimp only
  split
  · next below => exact .inl ⟨rfl, (Nat.compare_eq_lt.mp below).le⟩
  · next middle =>
      have half := Nat.compare_eq_eq.mp middle
      rcases Nat.mod_two_eq_zero_or_one (num / den) with even | odd
      · exact .inl ⟨by rw [even, Nat.add_zero], half.le⟩
      · exact .inr ⟨by rw [odd], half.ge⟩
  · next above => exact .inr ⟨rfl, (Nat.compare_eq_gt.mp above).le⟩

/-- Rounding is off by at most a half. -/
theorem roundEven_near (num : ℕ) {den : ℕ} (positive : 0 < den) :
    2 * (roundEven num den * den) ≤ 2 * num + den ∧
      2 * num ≤ 2 * (roundEven num den * den) + den := by
  have whole := Nat.div_add_mod num den
  have part : num % den < den := Nat.mod_lt num positive
  rw [Nat.mul_comm] at whole
  rcases roundEven_cases num den with ⟨down, small⟩ | ⟨up, large⟩
  · rw [down]
    omega
  · rw [up, Nat.add_mul]
    omega

theorem le_roundEven {num den k : ℕ} (positive : 0 < den) (below : k * den ≤ num) :
    k ≤ roundEven num den := by
  have near := (roundEven_near num positive).2
  by_contra past
  have next : (roundEven num den + 1) * den ≤ k * den := Nat.mul_le_mul_right den (by omega)
  rw [Nat.add_mul] at next
  omega

theorem roundEven_le {num den k : ℕ} (positive : 0 < den) (above : num ≤ k * den) :
    roundEven num den ≤ k := by
  have near := (roundEven_near num positive).1
  by_contra past
  have next : (k + 1) * den ≤ roundEven num den * den := Nat.mul_le_mul_right den (by omega)
  rw [Nat.add_mul] at next
  omega

theorem roundEven_mul_left {c : ℕ} (positive : 0 < c) (num den : ℕ) :
    roundEven (c * num) (c * den) = roundEven num den := by
  have side : compare (2 * (c * (num % den))) (c * den) = compare (2 * (num % den)) den := by
    rw [← Nat.mul_assoc, Nat.mul_comm 2 c, Nat.mul_assoc]
    simp only [Nat.compare_eq_ite_lt, Nat.mul_lt_mul_left positive]
  simp only [roundEven, Nat.mul_div_mul_left _ _ positive, Nat.mul_mod_mul_left, side]

namespace Magnitude

/-- How fine the doubles are about `num / den` units: they are `2 ^ gridShift` units apart. -/
def gridShift (num den : ℕ) : ℕ := (num / den).log2 - 52

/-- The multiple of `2 ^ gridShift` units that is nearest to `num / den` units. -/
def gridPoint (num den : ℕ) : ℕ :=
  roundEven num (den * 2 ^ gridShift num den) * 2 ^ gridShift num den

variable {num den : ℕ}

theorem lt_grid (positive : 0 < den) : num < 2 ^ 53 * (den * 2 ^ gridShift num den) := by
  have bound : num / den < 2 ^ 53 * 2 ^ gridShift num den := by
    rw [← Nat.pow_add]
    apply Nat.lt_of_lt_of_le Nat.lt_log2_self
    exact Nat.pow_le_pow_right Nat.zero_lt_two (by unfold gridShift; omega)
  rw [Nat.div_lt_iff_lt_mul positive] at bound
  rwa [Nat.mul_comm den, ← Nat.mul_assoc]

theorem grid_le (positive : 0 < den) (coarse : gridShift num den ≠ 0) :
    2 ^ 52 * (den * 2 ^ gridShift num den) ≤ num := by
  have shift : (num / den).log2 = 52 + gridShift num den := by
    unfold gridShift at coarse ⊢
    omega
  have nonzero : num / den ≠ 0 := by
    intro zero
    rw [zero, Nat.log2_zero] at shift
    omega
  have bound : 2 ^ 52 * 2 ^ gridShift num den ≤ num / den := by
    rw [← Nat.pow_add, ← shift]
    exact Nat.log2_self_le nonzero
  rw [Nat.le_div_iff_mul_le positive] at bound
  rwa [Nat.mul_comm den, ← Nat.mul_assoc]

theorem le_roundEven_grid (num : ℕ) (positive : 0 < den) (coarse : gridShift num den ≠ 0) :
    2 ^ 52 ≤ roundEven num (den * 2 ^ gridShift num den) :=
  le_roundEven (Nat.mul_pos positive (Nat.two_pow_pos _)) (grid_le positive coarse)

theorem roundEven_grid_le (positive : 0 < den) :
    roundEven num (den * 2 ^ gridShift num den) ≤ 2 ^ 53 :=
  roundEven_le (Nat.mul_pos positive (Nat.two_pow_pos _)) (lt_grid positive).le

theorem units_eq_mul (p : Magnitude) : p.units = p.significand * 2 ^ p.shift := rfl

theorem significand_lt (p : Magnitude) : p.significand < 2 ^ 53 := p.canonical.1

/-- A double that is no multiple of the grid lies below all normal numbers of the grid. -/
theorem units_lt_of_shift_lt {p : Magnitude} {shift : ℕ} (finer : p.shift < shift) :
    p.units < 2 ^ 52 * 2 ^ shift := by
  calc
    p.units = p.significand * 2 ^ p.shift := p.units_eq_mul
    _ < 2 ^ 53 * 2 ^ p.shift := Nat.mul_lt_mul_of_pos_right p.significand_lt (Nat.two_pow_pos _)
    _ = 2 ^ 52 * 2 ^ (p.shift + 1) := by rw [Nat.pow_succ 2 p.shift]; omega
    _ ≤ 2 ^ 52 * 2 ^ shift :=
      Nat.mul_le_mul_left _ (Nat.pow_le_pow_right Nat.zero_lt_two finer)

theorem units_eq_of_shift_le {p : Magnitude} {shift : ℕ} (coarser : shift ≤ p.shift) :
    p.units = p.significand * 2 ^ (p.shift - shift) * 2 ^ shift := by
  rw [Nat.mul_assoc, ← Nat.pow_add, Nat.sub_add_cancel coarser, p.units_eq_mul]

theorem gridPoint_le (positive : 0 < den) {p : Magnitude} (above : num ≤ p.units * den) :
    gridPoint num den ≤ p.units := by
  have step : 0 < den * 2 ^ gridShift num den := Nat.mul_pos positive (Nat.two_pow_pos _)
  have coarser : gridShift num den ≤ p.shift := by
    by_contra finer
    have small := units_lt_of_shift_lt (Nat.lt_of_not_le finer)
    have large := (grid_le positive (by omega)).trans above
    rw [Nat.mul_comm den, ← Nat.mul_assoc] at large
    exact absurd (Nat.le_of_mul_le_mul_right large positive) (Nat.not_le.mpr small)
  rw [units_eq_of_shift_le coarser] at above ⊢
  refine Nat.mul_le_mul_right _ (roundEven_le step ?_)
  rwa [Nat.mul_comm den, ← Nat.mul_assoc]

theorem le_gridPoint (positive : 0 < den) {p : Magnitude} (below : p.units * den ≤ num) :
    p.units ≤ gridPoint num den := by
  have step : 0 < den * 2 ^ gridShift num den := Nat.mul_pos positive (Nat.two_pow_pos _)
  by_cases coarser : gridShift num den ≤ p.shift
  · rw [units_eq_of_shift_le coarser] at below ⊢
    refine Nat.mul_le_mul_right _ (le_roundEven step ?_)
    rwa [Nat.mul_comm den, ← Nat.mul_assoc]
  · have full := le_roundEven_grid num positive (by omega)
    exact (units_lt_of_shift_lt (Nat.lt_of_not_le coarser)).le.trans
      (Nat.mul_le_mul_right _ full)

theorem units_of_ofParts? {significand shift : ℕ} {m : Magnitude}
    (made : ofParts? significand shift = some m) : m.units = significand * 2 ^ shift := by
  unfold ofParts? at made
  split at made
  · rw [← Option.some.inj made]
    rfl
  · cases made

theorem round?_eq (num den : ℕ) :
    round? num den =
      if roundEven num (den * 2 ^ gridShift num den) < 2 ^ 53 then
        ofParts? (roundEven num (den * 2 ^ gridShift num den)) (gridShift num den)
      else ofParts? (2 ^ 52) (gridShift num den + 1) := rfl

theorem units_of_round? (positive : 0 < den) {m : Magnitude} (rounded : round? num den = some m) :
    m.units = gridPoint num den := by
  rw [round?_eq] at rounded
  split at rounded
  · exact units_of_ofParts? rounded
  · next carried =>
      have full : roundEven num (den * 2 ^ gridShift num den) = 2 ^ 53 :=
        Nat.le_antisymm (roundEven_grid_le positive) (Nat.le_of_not_lt carried)
      rw [units_of_ofParts? rounded, gridPoint, full, Nat.pow_succ 2 (gridShift num den)]
      omega

/-- What is not past the largest double is rounded to a double. -/
theorem exists_round? (positive : 0 < den) {p : Magnitude} (above : num ≤ p.units * den) :
    ∃ m, round? num den = some m := by
  have point := gridPoint_le positive above
  have most := p.canonical.2.1
  unfold gridPoint at point
  rw [round?_eq]
  split
  · next fits =>
      have full := le_roundEven_grid num positive
      have bound : gridShift num den ≤ 2045 := by
        by_contra past
        have small := units_lt_of_shift_lt (show p.shift < gridShift num den by omega)
        have large := Nat.mul_le_mul_right (2 ^ gridShift num den) (full (by omega))
        omega
      refine ⟨_, dif_pos ⟨fits, bound, ?_⟩⟩
      by_cases finest : gridShift num den = 0
      · exact .inl finest
      · exact .inr (full finest)
  · next carried =>
      have bound : gridShift num den + 1 ≤ 2045 := by
        by_contra past
        have small := units_lt_of_shift_lt (show p.shift < gridShift num den + 1 by omega)
        have large := Nat.mul_le_mul_right (2 ^ gridShift num den) (Nat.le_of_not_lt carried)
        rw [Nat.pow_succ 2 (gridShift num den)] at small
        omega
      exact ⟨_, dif_pos ⟨by decide, bound, .inr (le_refl _)⟩⟩

/-- Where significands are full, rounding down loses at most one part in `2 ^ 53`, and rounding up
adds a little less. -/
theorem gridPoint_near (positive : 0 < den) (normal : 2 ^ 52 * den ≤ num) :
    2 ^ 53 * num ≤ 2 ^ 53 * (gridPoint num den * den) + num ∧
      (2 ^ 53 + 1) * (gridPoint num den * den) ≤ (2 ^ 53 + 2) * num := by
  have base : 2 ^ 52 * (den * 2 ^ gridShift num den) ≤ num := by
    by_cases finest : gridShift num den = 0
    · rwa [finest, Nat.pow_zero, Nat.mul_one]
    · exact grid_le positive finest
  have spread : gridPoint num den * den =
      roundEven num (den * 2 ^ gridShift num den) * (den * 2 ^ gridShift num den) := by
    rw [gridPoint, Nat.mul_assoc, Nat.mul_comm den]
  obtain ⟨up, down⟩ := roundEven_near num (Nat.mul_pos positive (Nat.two_pow_pos _))
  rw [spread]
  generalize den * 2 ^ gridShift num den = step at base up down
  refine ⟨by omega, ?_⟩
  by_cases lowered : roundEven num step * step ≤ num
  · omega
  · have next : (2 ^ 52 + 1) * step ≤ roundEven num step * step := by
      refine Nat.mul_le_mul_right step ?_
      by_contra low
      exact lowered ((Nat.mul_le_mul_right step (by omega)).trans base)
    omega

theorem round?_mul_left {c : ℕ} (positive : 0 < c) (num den : ℕ) :
    round? (c * num) (c * den) = round? num den := by
  simp only [round?, Nat.mul_div_mul_left _ _ positive, Nat.mul_assoc c den,
    roundEven_mul_left positive]

/-- The double nearest to a number that is not negative, if the largest one is not past. -/
def nearest? (x : ℚ) : Option Magnitude := round? (x.num.toNat * unitsPerOne) x.den

theorem scaled_num {x : ℚ} (nonneg : 0 ≤ x) :
    ((x.num.toNat * unitsPerOne : ℕ) : ℚ) = x * (unitsPerOne * x.den) := by
  have numerator : ((x.num.toNat : ℕ) : ℚ) = x * x.den := by
    rw [Rat.mul_den_eq_num]
    exact_mod_cast Int.toNat_of_nonneg (Rat.num_nonneg.mpr nonneg)
  rw [Nat.cast_mul, numerator]
  ring

theorem scaled_den_pos (x : ℚ) : (0 : ℚ) < unitsPerOne * x.den :=
  mul_pos unitsPerOne_cast_pos (by exact_mod_cast x.pos)

theorem scaled_units (p : Magnitude) (x : ℚ) :
    ((p.units * x.den : ℕ) : ℚ) = p.value * (unitsPerOne * x.den) := by
  rw [Nat.cast_mul, p.units_eq, mul_assoc]

theorem round?_eq_nearest? {x : ℚ} (nonneg : 0 ≤ x) (positive : 0 < den)
    (same : (num : ℚ) = x * (unitsPerOne * den)) : round? num den = nearest? x := by
  have crossed : x.den * num = den * (x.num.toNat * unitsPerOne) := by
    have cast : ((x.den * num : ℕ) : ℚ) = (den * (x.num.toNat * unitsPerOne) : ℕ) := by
      rw [Nat.cast_mul den, scaled_num nonneg, Nat.cast_mul, same]
      ring
    exact_mod_cast cast
  calc
    round? num den = round? (x.den * num) (x.den * den) := (round?_mul_left x.pos num den).symm
    _ = round? (den * (x.num.toNat * unitsPerOne)) (den * x.den) := by
      rw [crossed, Nat.mul_comm x.den]
    _ = nearest? x := round?_mul_left positive _ _

section Nearest

variable {x : ℚ} {m p : Magnitude}

theorem le_value_iff (nonneg : 0 ≤ x) :
    x ≤ p.value ↔ x.num.toNat * unitsPerOne ≤ p.units * x.den := by
  rw [← Nat.cast_le (α := ℚ), scaled_num nonneg, scaled_units,
    mul_le_mul_iff_left₀ (scaled_den_pos x)]

theorem value_le_iff (nonneg : 0 ≤ x) :
    p.value ≤ x ↔ p.units * x.den ≤ x.num.toNat * unitsPerOne := by
  rw [← Nat.cast_le (α := ℚ), scaled_num nonneg, scaled_units,
    mul_le_mul_iff_left₀ (scaled_den_pos x)]

theorem value_le_value_iff : m.value ≤ p.value ↔ m.units ≤ p.units := by
  rw [value, value, div_le_div_iff_of_pos_right unitsPerOne_cast_pos, Nat.cast_le]

theorem exists_nearest? (nonneg : 0 ≤ x) (above : x ≤ p.value) : ∃ m, nearest? x = some m :=
  exists_round? x.pos ((le_value_iff nonneg).mp above)

theorem nearest?_le (nonneg : 0 ≤ x) (rounded : nearest? x = some m) (above : x ≤ p.value) :
    m.value ≤ p.value := by
  rw [value_le_value_iff, units_of_round? x.pos rounded]
  exact gridPoint_le x.pos ((le_value_iff nonneg).mp above)

theorem le_nearest? (nonneg : 0 ≤ x) (rounded : nearest? x = some m) (below : p.value ≤ x) :
    p.value ≤ m.value := by
  rw [value_le_value_iff, units_of_round? x.pos rounded]
  exact le_gridPoint x.pos ((value_le_iff nonneg).mp below)

/-- A number that is a double is rounded to it. -/
theorem nearest?_of_value_eq (exact : p.value = x) :
    ∃ m, nearest? x = some m ∧ m.value = x := by
  have nonneg : 0 ≤ x := exact ▸ p.value_nonneg
  obtain ⟨m, rounded⟩ := exists_nearest? nonneg exact.ge
  refine ⟨m, rounded, le_antisymm ?_ ?_⟩
  · exact exact ▸ nearest?_le nonneg rounded exact.ge
  · exact exact ▸ le_nearest? nonneg rounded exact.le

/-- From the least normal number on, rounding is off by at most one part in `2 ^ 53`. -/
theorem nearest?_near (normal : 2 ^ 52 ≤ x * unitsPerOne) (rounded : nearest? x = some m) :
    2 ^ 53 * x ≤ 2 ^ 53 * m.value + x ∧ (2 ^ 53 + 1) * m.value ≤ (2 ^ 53 + 2) * x := by
  have nonneg : 0 ≤ x := by
    refine nonneg_of_mul_nonneg_left (le_trans ?_ normal) unitsPerOne_cast_pos
    norm_num
  have full : 2 ^ 52 * x.den ≤ x.num.toNat * unitsPerOne := by
    rw [← Nat.cast_le (α := ℚ), scaled_num nonneg, ← mul_assoc, Nat.cast_mul]
    refine mul_le_mul_of_nonneg_right ?_ (Nat.cast_nonneg _)
    exact_mod_cast normal
  have near := gridPoint_near x.pos full
  have number := scaled_num nonneg
  have point := scaled_units m x
  have scale := scaled_den_pos x
  rw [← units_of_round? x.pos rounded] at near
  generalize x.num.toNat * unitsPerOne = num at near number
  generalize m.units * x.den = nearest at near point
  have down : (2 : ℚ) ^ 53 * num ≤ 2 ^ 53 * nearest + num := by exact_mod_cast near.1
  have up : (2 ^ 53 + 1 : ℚ) * nearest ≤ (2 ^ 53 + 2) * num := by exact_mod_cast near.2
  rw [number, point] at down up
  constructor
  · exact le_of_mul_le_mul_right (by linarith) scale
  · exact le_of_mul_le_mul_right (by linarith) scale

end Nearest

end Magnitude
end SensorThresholds
