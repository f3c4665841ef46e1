import SensorThresholds.Double.Shortest
import SensorThresholds.Proofs.Rounding

/-!
Which numbers are rounded to a given double: those in an interval that reaches half way to its
neighbours, with both ends exactly where the significand is even.
-/

namespace SensorThresholds

theorem roundEven_side (num den : ℕ) :
    (roundEven num den = num / den ∧
        (2 * (num % den) < den ∨ 2 * (num % den) = den ∧ num / den % 2 = 0)) ∨
      (roundEven num den = num / den + 1 ∧
        (den < 2 * (num % den) ∨ 2 * (num % den) = den ∧ num / den % 2 = 1)) := by
  unfold roundEven
  dsimp only
  split
  · next below => exact .inl ⟨rfl, .inl (Nat.compare_eq_lt.mp below)⟩
  · next middle =>
      have half := Nat.compare_eq_eq.mp middle
      rcases Nat.mod_two_eq_zero_or_one (num / den) with even | odd
      · exact .inl ⟨by rw [even, Nat.add_zero], .inr ⟨half, even⟩⟩
      · exact .inr ⟨by rw [odd], .inr ⟨half, odd⟩⟩
  · next above => exact .inr ⟨rfl, .inl (Nat.compare_eq_gt.mp above)⟩

/-- Rounding goes to the integer within a half, and at a half to the even one. -/
theorem roundEven_eq_iff {num den : ℕ} (positive : 0 < den) (q : ℕ) :
    roundEven num den = q ↔
      (2 * (q * den) < 2 * num + den ∧ 2 * num < 2 * (q * den) + den) ∨
        q % 2 = 0 ∧ (2 * (q * den) = 2 * num + den ∨ 2 * num = 2 * (q * den) + den) := by
  have whole : num / den * den + num % den = num := by
    rw [Nat.mul_comm]
    exact Nat.div_add_mod num den
  have part : num % den < den := Nat.mod_lt num positive
  have side := roundEven_side num den
  have apart {j k : ℕ} (order : j + 1 ≤ k) : j * den + den ≤ k * den := by
    rw [← Nat.succ_mul]
    exact Nat.mul_le_mul_right den order
  have next : (num / den + 1) * den = num / den * den + den := Nat.succ_mul ..
  rcases Nat.lt_or_ge q (num / den) with lower | upper
  · have gap := apart lower
    omega
  · rcases upper.eq_or_lt with rfl | past
    · omega
    · rcases (show num / den + 1 ≤ q from past).eq_or_lt with rfl | far
      · rw [next]
        omega
      · have gap := apart far
        rw [next] at gap
        omega

/-- To an even integer both ends of its interval are rounded. -/
theorem roundEven_eq_even_iff {num den q : ℕ} (positive : 0 < den) (even : q % 2 = 0) :
    roundEven num den = q ↔
      2 * (q * den) ≤ 2 * num + den ∧ 2 * num ≤ 2 * (q * den) + den := by
  rw [roundEven_eq_iff positive]
  omega

namespace Magnitude

variable {num den : ℕ}

theorem gridShift_eq_iff (positive : 0 < den) (shift : ℕ) :
    gridShift num den = shift ↔
      (shift = 0 ∨ 2 ^ 52 * (den * 2 ^ shift) ≤ num) ∧ num < 2 ^ 53 * (den * 2 ^ shift) := by
  have finer {r t : ℕ} (order : r < t) : 2 ^ 53 * (den * 2 ^ r) ≤ 2 ^ 52 * (den * 2 ^ t) := by
    calc
      2 ^ 53 * (den * 2 ^ r) = 2 ^ 52 * (den * 2 ^ (r + 1)) := by
        rw [Nat.pow_succ 2 r]
        ring
      _ ≤ 2 ^ 52 * (den * 2 ^ t) :=
        Nat.mul_le_mul_left _ (Nat.mul_le_mul_left _ (Nat.pow_le_pow_right Nat.zero_lt_two order))
  constructor
  · rintro rfl
    refine ⟨?_, lt_grid positive⟩
    by_cases finest : gridShift num den = 0
    · exact .inl finest
    · exact .inr (grid_le positive finest)
  · rintro ⟨least, most⟩
    rcases lt_trichotomy (gridShift num den) shift with coarse | same | fine
    · have above : num < _ := lt_grid positive
      have gap := finer coarse
      omega
    · exact same
    · have below : _ ≤ num := grid_le positive (by omega)
      have gap := finer fine
      omega

theorem ofParts?_eq_some_iff {significand shift : ℕ} {m : Magnitude} :
    ofParts? significand shift = some m ↔ m.significand = significand ∧ m.shift = shift := by
  unfold ofParts?
  constructor
  · intro made
    split at made
    · rw [← Option.some.inj made]
      exact ⟨rfl, rfl⟩
    · cases made
  · rintro ⟨rfl, rfl⟩
    rw [dif_pos m.canonical]

/-- Rounding carries where the significand comes out one bit too long. -/
theorem round?_eq_some_iff (positive : 0 < den) {m : Magnitude} :
    round? num den = some m ↔
      (gridShift num den = m.shift ∧ roundEven num (den * 2 ^ m.shift) = m.significand) ∨
        ∃ r, m.shift = r + 1 ∧ m.significand = 2 ^ 52 ∧ gridShift num den = r ∧
          roundEven num (den * 2 ^ r) = 2 ^ 53 := by
  have most : roundEven num _ ≤ _ := roundEven_grid_le positive
  rw [round?_eq]
  split
  · next fits =>
      rw [ofParts?_eq_some_iff]
      constructor
      · rintro ⟨digits, shift⟩
        exact .inl ⟨shift.symm, by rw [shift, digits]⟩
      · rintro (⟨shift, digits⟩ | ⟨r, -, -, rfl, carried⟩)
        · exact ⟨by rw [shift, digits], shift.symm⟩
        · exact absurd carried fits.ne
  · next carried =>
      rw [ofParts?_eq_some_iff]
      constructor
      · rintro ⟨digits, shift⟩
        exact .inr ⟨_, shift, digits, rfl, by omega⟩
      · rintro (⟨shift, digits⟩ | ⟨r, shift, digits, rfl, -⟩)
        · rw [shift, digits] at carried
          exact absurd m.significand_lt carried
        · exact ⟨digits, shift⟩

/-- Below a power of two the neighbours are twice as dense. -/
def IsBoundary (m : Magnitude) : Prop := m.significand = 2 ^ 52 ∧ m.shift ≠ 0

theorem lowerQuarters_of_boundary {m : Magnitude} (boundary : m.IsBoundary) :
    m.lowerQuarters = 4 * m.units - 2 ^ m.shift := if_pos boundary

theorem lowerQuarters_of_not_boundary {m : Magnitude} (inner : ¬ m.IsBoundary) :
    m.lowerQuarters = 4 * m.units - 2 * 2 ^ m.shift := if_neg inner

theorem upperQuarters_eq (m : Magnitude) : m.upperQuarters = 4 * m.units + 2 * 2 ^ m.shift := rfl

theorem closed_iff (m : Magnitude) : m.closed = true ↔ m.significand % 2 = 0 := beq_iff_eq

/-- The ratio, in quarters of a unit, is in the interval about `m`. -/
def Spans (m : Magnitude) (num den : ℕ) : Prop :=
  (m.lowerQuarters * den < num ∧ num < m.upperQuarters * den) ∨
    m.closed = true ∧ (num = m.lowerQuarters * den ∨ num = m.upperQuarters * den)

theorem upperQuarters_mul (m : Magnitude) (den : ℕ) :
    m.upperQuarters * den =
      4 * (m.significand * (den * 2 ^ m.shift)) + 2 * (den * 2 ^ m.shift) := by
  rw [upperQuarters_eq, units_eq_mul]
  ring

theorem round?_iff_of_inner {m : Magnitude} (inner : ¬ m.IsBoundary) (positive : 0 < den) :
    round? num den = some m ↔ m.Spans (4 * num) den := by
  have lower : m.lowerQuarters * den =
      4 * (m.significand * (den * 2 ^ m.shift)) - 2 * (den * 2 ^ m.shift) := by
    rw [lowerQuarters_of_not_boundary inner, units_eq_mul, Nat.sub_mul]
    ring_nf
  have least : m.shift = 0 ∨
      2 ^ 52 * (den * 2 ^ m.shift) + den * 2 ^ m.shift ≤
        m.significand * (den * 2 ^ m.shift) := by
    by_cases finest : m.shift = 0
    · exact .inl finest
    · right
      rw [← Nat.succ_mul]
      refine Nat.mul_le_mul_right _ ?_
      have full := m.canonical.2.2.resolve_left finest
      exact Nat.lt_of_le_of_ne full fun same => inner ⟨same.symm, finest⟩
  have most : m.significand * (den * 2 ^ m.shift) + den * 2 ^ m.shift ≤
      2 ^ 53 * (den * 2 ^ m.shift) := by
    rw [← Nat.succ_mul]
    exact Nat.mul_le_mul_right _ m.significand_lt
  have first : (m.significand = 0 ∧ m.significand * (den * 2 ^ m.shift) = 0) ∨
      den * 2 ^ m.shift ≤ m.significand * (den * 2 ^ m.shift) := by
    rcases Nat.eq_zero_or_pos m.significand with zero | some
    · exact .inl ⟨zero, by rw [zero, Nat.zero_mul]⟩
    · exact .inr (Nat.le_mul_of_pos_left _ some)
  have step : 0 < den * 2 ^ m.shift := Nat.mul_pos positive (Nat.two_pow_pos _)
  have uncarried : ¬ ∃ r, m.shift = r + 1 ∧ m.significand = 2 ^ 52 ∧ gridShift num den = r ∧
      roundEven num (den * 2 ^ r) = 2 ^ 53 := by
    rintro ⟨r, shift, significand, -⟩
    exact inner ⟨significand, by omega⟩
  rw [round?_eq_some_iff positive, or_iff_left uncarried, Spans, closed_iff, upperQuarters_mul,
    lower, gridShift_eq_iff positive, roundEven_eq_iff step]
  generalize m.significand * (den * 2 ^ m.shift) = point at *
  generalize den * 2 ^ m.shift = step at *
  omega

theorem round?_iff_of_boundary {m : Magnitude} (boundary : m.IsBoundary) (positive : 0 < den) :
    round? num den = some m ↔ m.Spans (4 * num) den := by
  obtain ⟨significand, coarse⟩ := boundary
  obtain ⟨r, shift⟩ := Nat.exists_eq_succ_of_ne_zero coarse
  have fine : 0 < den * 2 ^ r := Nat.mul_pos positive (Nat.two_pow_pos _)
  have double : den * 2 ^ (r + 1) = 2 * (den * 2 ^ r) := by
    rw [Nat.pow_succ]
    ring
  have lower : m.lowerQuarters * den =
      4 * (2 ^ 52 * (den * 2 ^ m.shift)) - den * 2 ^ m.shift := by
    rw [lowerQuarters_of_boundary ⟨significand, coarse⟩, units_eq_mul, significand, Nat.sub_mul]
    ring_nf
  have carried : (∃ k, m.shift = k + 1 ∧ m.significand = 2 ^ 52 ∧ gridShift num den = k ∧
      roundEven num (den * 2 ^ k) = 2 ^ 53) ↔
      gridShift num den = r ∧ roundEven num (den * 2 ^ r) = 2 ^ 53 := by
    constructor
    · rintro ⟨k, same, -, rest⟩
      obtain rfl : k = r := by omega
      exact rest
    · intro rest
      exact ⟨r, shift, significand, rest⟩
  have spans : m.Spans (4 * num) den ↔
      2 * (2 ^ 53 * (den * 2 ^ r)) ≤ 2 * num + den * 2 ^ r ∧
        num ≤ 2 ^ 53 * (den * 2 ^ r) + den * 2 ^ r := by
    have whole : 2 ^ 52 * (2 * (den * 2 ^ r)) = 2 ^ 53 * (den * 2 ^ r) := by ring
    have least : den * 2 ^ r ≤ 2 ^ 53 * (den * 2 ^ r) := Nat.le_mul_of_pos_left _ (by norm_num)
    rw [Spans, closed_iff, upperQuarters_mul, lower, significand, shift, double, whole]
    generalize 2 ^ 53 * (den * 2 ^ r) = whole at least
    omega
  rw [round?_eq_some_iff positive, carried, spans, significand, shift, gridShift_eq_iff positive,
    gridShift_eq_iff positive, roundEven_eq_even_iff fine rfl,
    roundEven_eq_even_iff (double ▸ Nat.mul_pos Nat.two_pos fine) rfl, double]
  generalize den * 2 ^ r = half at fine
  omega

theorem round?_eq_some_iff_spans (positive : 0 < den) {m : Magnitude} :
    round? num den = some m ↔ m.Spans (4 * num) den := by
  by_cases boundary : m.IsBoundary
  · exact round?_iff_of_boundary boundary positive
  · exact round?_iff_of_inner boundary positive

/-- The distance from `m` to the next double. -/
def ulp (m : Magnitude) : ℚ := 2 ^ m.shift / unitsPerOne

def lower (m : Magnitude) : ℚ := m.lowerQuarters / (4 * unitsPerOne)

def upper (m : Magnitude) : ℚ := m.upperQuarters / (4 * unitsPerOne)

/-- The interval about `m`. -/
def Attracts (m : Magnitude) (x : ℚ) : Prop :=
  (m.lower < x ∧ x < m.upper) ∨ m.closed = true ∧ (x = m.lower ∨ x = m.upper)

section Interval

variable {m : Magnitude} {x y z : ℚ}

theorem spans_iff_attracts (positive : 0 < den) (same : (num : ℚ) = x * (4 * unitsPerOne * den)) :
    m.Spans num den ↔ m.Attracts x := by
  have scale : (0 : ℚ) < 4 * unitsPerOne * den :=
    mul_pos (mul_pos four_pos unitsPerOne_cast_pos) (Nat.cast_pos.mpr positive)
  have scaled (quarters : ℕ) : ((quarters * den : ℕ) : ℚ) =
      quarters / (4 * unitsPerOne) * (4 * unitsPerOne * den) := by
    rw [Nat.cast_mul, ← mul_assoc, div_mul_cancel₀]
    exact mul_ne_zero four_ne_zero unitsPerOne_cast_pos.ne'
  have lt (k : ℕ) : k * den < num ↔ (k : ℚ) / (4 * unitsPerOne) < x := by
    rw [← Nat.cast_lt (α := ℚ), scaled, same, mul_lt_mul_iff_left₀ scale]
  have gt (k : ℕ) : num < k * den ↔ x < (k : ℚ) / (4 * unitsPerOne) := by
    rw [← Nat.cast_lt (α := ℚ), scaled, same, mul_lt_mul_iff_left₀ scale]
  have eq (k : ℕ) : num = k * den ↔ x = (k : ℚ) / (4 * unitsPerOne) := by
    rw [← Nat.cast_inj (R := ℚ), scaled, same, mul_left_inj' scale.ne']
  rw [Spans, Attracts, lt, gt, eq, eq, lower, upper]

/-- A number is rounded to `m` exactly if it is in the interval about `m`. -/
theorem nearest?_eq_some_iff (nonneg : 0 ≤ x) : nearest? x = some m ↔ m.Attracts x := by
  rw [nearest?, round?_eq_some_iff_spans x.pos]
  refine spans_iff_attracts x.pos ?_
  rw [Nat.cast_mul, scaled_num nonneg]
  push_cast
  ring

theorem value_eq (m : Magnitude) : m.value = m.significand * m.ulp := by
  rw [value, units_eq_mul, ulp]
  push_cast
  ring

theorem ulp_pos (m : Magnitude) : 0 < m.ulp := div_pos (by positivity) unitsPerOne_cast_pos

theorem upper_eq (m : Magnitude) : m.upper = m.value + m.ulp / 2 := by
  have one := unitsPerOne_cast_pos
  rw [upper, upperQuarters_eq, value, ulp]
  push_cast
  generalize (unitsPerOne : ℚ) = unit at one
  field_simp
  ring

/-- The lower end is half an ulp away, or a quarter at a boundary. -/
theorem lower_eq (nonzero : m.significand ≠ 0) :
    (m.IsBoundary ∧ m.lower = m.value - m.ulp / 4) ∨
      (¬ m.IsBoundary ∧ m.lower = m.value - m.ulp / 2) := by
  have one := unitsPerOne_cast_pos
  have least : 2 ^ m.shift ≤ m.units := Nat.le_mul_of_pos_left _ (Nat.pos_of_ne_zero nonzero)
  by_cases boundary : m.IsBoundary
  · refine .inl ⟨boundary, ?_⟩
    rw [lower, lowerQuarters_of_boundary boundary, Nat.cast_sub (by omega), value, ulp]
    push_cast
    generalize (unitsPerOne : ℚ) = unit at one
    field_simp
  · refine .inr ⟨boundary, ?_⟩
    rw [lower, lowerQuarters_of_not_boundary boundary, Nat.cast_sub (by omega), value, ulp]
    push_cast
    generalize (unitsPerOne : ℚ) = unit at one
    field_simp
    ring

theorem lower_of_zero (zero : m.significand = 0) : m.lower = 0 := by
  have none : m.units = 0 := by rw [units_eq_mul, zero, Nat.zero_mul]
  have inner : ¬ m.IsBoundary := by
    rintro ⟨full, -⟩
    omega
  rw [lower, lowerQuarters_of_not_boundary inner, none, Nat.mul_zero, Nat.zero_sub, Nat.cast_zero,
    zero_div]

theorem le_lower (m : Magnitude) : m.value - m.ulp / 2 ≤ m.lower := by
  have distance := m.ulp_pos
  by_cases zero : m.significand = 0
  · rw [lower_of_zero zero, value_eq, zero, Nat.cast_zero, zero_mul]
    linarith
  · rcases lower_eq zero with ⟨-, same⟩ | ⟨-, same⟩ <;> linarith

theorem lower_le (nonzero : m.significand ≠ 0) : m.lower ≤ m.value - m.ulp / 4 := by
  have distance := m.ulp_pos
  rcases lower_eq nonzero with ⟨-, same⟩ | ⟨-, same⟩ <;> linarith

theorem attracts_value (m : Magnitude) : m.Attracts m.value := by
  have distance := m.ulp_pos
  have above : m.value < m.upper := by
    rw [upper_eq]
    linarith
  by_cases zero : m.significand = 0
  · right
    refine ⟨m.closed_iff.mpr (by rw [zero]), .inl ?_⟩
    rw [lower_of_zero zero, value_eq, zero, Nat.cast_zero, zero_mul]
  · have below := lower_le zero
    exact .inl ⟨by linarith, above⟩

theorem lower_lt_upper (m : Magnitude) : m.lower < m.upper := by
  have distance := m.ulp_pos
  by_cases zero : m.significand = 0
  · rw [lower_of_zero zero, upper_eq, value_eq, zero, Nat.cast_zero, zero_mul]
    linarith
  · have below := lower_le zero
    rw [upper_eq]
    linarith

theorem Attracts.bounds (attracted : m.Attracts x) : m.lower ≤ x ∧ x ≤ m.upper := by
  have order := m.lower_lt_upper
  rcases attracted with ⟨above, below⟩ | ⟨-, rfl | rfl⟩
  · exact ⟨above.le, below.le⟩
  · exact ⟨le_refl _, order.le⟩
  · exact ⟨order.le, le_refl _⟩

theorem attracts_of_closed (even : m.closed = true) (above : m.lower ≤ x) (below : x ≤ m.upper) :
    m.Attracts x := by
  rcases above.lt_or_eq with inside | rfl
  · rcases below.lt_or_eq with inside' | rfl
    · exact .inl ⟨inside, inside'⟩
    · exact .inr ⟨even, .inr rfl⟩
  · exact .inr ⟨even, .inl rfl⟩

theorem Attracts.convex (first : m.Attracts x) (last : m.Attracts z) (above : x ≤ y)
    (below : y ≤ z) : m.Attracts y := by
  by_cases even : m.closed = true
  · exact attracts_of_closed even (first.bounds.1.trans above) (below.trans last.bounds.2)
  · obtain ⟨least, -⟩ := first.resolve_right fun ends => even ends.1
    obtain ⟨-, most⟩ := last.resolve_right fun ends => even ends.1
    exact .inl ⟨least.trans_le above, below.trans_lt most⟩

theorem Attracts.unique {p : Magnitude} (nonneg : 0 ≤ x) (first : m.Attracts x)
    (second : p.Attracts x) : m = p := by
  rw [← nearest?_eq_some_iff nonneg] at first second
  exact Option.some.inj (first.symm.trans second)

theorem value_injective {p : Magnitude} (same : m.value = p.value) : m = p :=
  m.attracts_value.unique m.value_nonneg (same ▸ p.attracts_value)

theorem value_lt_value_iff {p : Magnitude} : m.value < p.value ↔ m.units < p.units :=
  lt_iff_lt_of_le_iff_le value_le_value_iff

/-- Multiples of a grid that differ are a step of it apart. -/
theorem grid_apart {a b shift : ℕ} (less : a * 2 ^ shift < b * 2 ^ shift) :
    a * 2 ^ shift + 2 ^ shift ≤ b * 2 ^ shift := by
  rw [← Nat.succ_mul]
  exact Nat.mul_le_mul_right _ (Nat.lt_of_mul_lt_mul_right less)

theorem units_add_le_of_lt {p : Magnitude} (less : m.units < p.units) :
    m.units + 2 ^ m.shift ≤ p.units := by
  have coarser : m.shift ≤ p.shift := by
    by_contra finer
    have small := units_lt_of_shift_lt (Nat.lt_of_not_le finer)
    have full : 2 ^ 52 ≤ m.significand := m.canonical.2.2.resolve_left (by omega)
    have large := Nat.mul_le_mul_right (2 ^ m.shift) full
    rw [← m.units_eq_mul] at large
    omega
  rw [m.units_eq_mul, units_eq_of_shift_le coarser] at less ⊢
  exact grid_apart less

theorem units_add_le_lowerQuarters {p : Magnitude} (less : p.units < m.units) :
    2 * p.units + 2 * m.units ≤ m.lowerQuarters := by
  by_cases boundary : m.IsBoundary
  · -- The next double down is half a step of the grid of `m` away.
    rw [lowerQuarters_of_boundary boundary]
    obtain ⟨significand, coarse⟩ := boundary
    obtain ⟨r, shift⟩ := Nat.exists_eq_succ_of_ne_zero coarse
    have units : m.units = 2 ^ 53 * 2 ^ r := by
      rw [m.units_eq_mul, significand, shift, Nat.pow_succ 2 r]
      ring
    have apart : p.units + 2 ^ r ≤ m.units := by
      by_cases coarser : r ≤ p.shift
      · rw [units, units_eq_of_shift_le coarser] at less ⊢
        exact grid_apart less
      · have small := units_lt_of_shift_lt (Nat.lt_of_not_le coarser)
        have one := Nat.two_pow_pos r
        omega
    rw [shift, Nat.pow_succ 2 r]
    omega
  · rw [lowerQuarters_of_not_boundary boundary]
    have apart : p.units + 2 ^ m.shift ≤ m.units := by
      by_cases coarser : m.shift ≤ p.shift
      · rw [m.units_eq_mul, units_eq_of_shift_le coarser] at less ⊢
        exact grid_apart less
      · have small := units_lt_of_shift_lt (Nat.lt_of_not_le coarser)
        have full : 2 ^ 52 < m.significand := by
          refine Nat.lt_of_le_of_ne (m.canonical.2.2.resolve_left (by omega)) fun same => ?_
          exact boundary ⟨same.symm, by omega⟩
        have large := Nat.mul_le_mul_right (2 ^ m.shift) (Nat.succ_le_of_lt full)
        rw [Nat.succ_mul, ← m.units_eq_mul] at large
        omega
    omega

/-- The interval reaches at most half way up to a larger double. -/
theorem upper_le_halfway {p : Magnitude} (less : m.value < p.value) :
    2 * m.upper ≤ m.value + p.value := by
  have units := units_add_le_of_lt (value_lt_value_iff.mp less)
  have cast : ((m.units : ℚ) + 2 ^ m.shift) / unitsPerOne ≤ p.units / unitsPerOne :=
    div_le_div_of_nonneg_right (by exact_mod_cast units) unitsPerOne_cast_pos.le
  rw [add_div, ← ulp, ← value, ← value] at cast
  rw [upper_eq]
  linarith

/-- The interval reaches at most half way down to a smaller double. -/
theorem halfway_le_lower {p : Magnitude} (less : p.value < m.value) :
    p.value + m.value ≤ 2 * m.lower := by
  have quarters := units_add_le_lowerQuarters (value_lt_value_iff.mp less)
  have cast : (2 * p.units + 2 * m.units : ℚ) / (4 * unitsPerOne) ≤
      m.lowerQuarters / (4 * unitsPerOne) :=
    div_le_div_of_nonneg_right (by exact_mod_cast quarters)
      (mul_pos four_pos unitsPerOne_cast_pos).le
  have halves : (2 * p.units + 2 * m.units : ℚ) / (4 * unitsPerOne) = (p.value + m.value) / 2 := by
    have one := unitsPerOne_cast_pos
    rw [value, value]
    generalize (unitsPerOne : ℚ) = unit at one
    field_simp
    ring
  rw [halves, ← lower] at cast
  linarith

/-- No double is nearer to a number than the one that it is rounded to, and that one is even where
another double is as near. -/
theorem nearest?_closest (nonneg : 0 ≤ x) (rounded : nearest? x = some m) (p : Magnitude) :
    |x - m.value| ≤ |x - p.value| ∧
      (p.value ≠ m.value → |x - m.value| = |x - p.value| → m.significand % 2 = 0) := by
  have attracted := (nearest?_eq_some_iff nonneg).mp rounded
  obtain ⟨above, below⟩ := attracted.bounds
  rcases lt_trichotomy m.value p.value with less | same | greater
  · have halfway := upper_le_halfway less
    have distance : |x - p.value| = p.value - x := by
      rw [abs_sub_comm, abs_of_nonneg (by linarith)]
    rw [distance]
    refine ⟨abs_le.mpr ⟨by linarith, by linarith⟩, fun _ tie => ?_⟩
    rcases attracted with ⟨-, strict⟩ | ⟨even, -⟩
    · rcases abs_cases (x - m.value) with ⟨side, -⟩ | ⟨side, -⟩ <;> linarith
    · exact m.closed_iff.mp even
  · rw [same]
    exact ⟨le_refl _, fun different => absurd rfl different⟩
  · have halfway := halfway_le_lower greater
    have distance : |x - p.value| = x - p.value := abs_of_nonneg (by linarith)
    rw [distance]
    refine ⟨abs_le.mpr ⟨by linarith, by linarith⟩, fun _ tie => ?_⟩
    rcases attracted with ⟨strict, -⟩ | ⟨even, -⟩
    · rcases abs_cases (x - m.value) with ⟨side, -⟩ | ⟨side, -⟩ <;> linarith
    · exact m.closed_iff.mp even

end Interval

end Magnitude

end SensorThresholds
