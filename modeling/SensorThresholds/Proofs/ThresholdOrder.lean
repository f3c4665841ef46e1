import SensorThresholds.Proofs.ReportText
import SensorThresholds.Proofs.Scaling

/-!
The order of doubles, and that scaling keeps it. All raw values are multiplied by one number and
rounded, so that thresholds in order have values in order, and are shown as integers in order.
-/

namespace SensorThresholds
namespace Double

open Magnitude

/-- The order of the numbers, with an infinity at each end. The zeros are equal, and what is no
number is in order with nothing. -/
inductive Le : Double → Double → Prop
  | least {b : Double} (number : b ≠ nan) : Le (infinite true) b
  | greatest {a : Double} (number : a ≠ nan) : Le a (infinite false)
  | finite {s t : Bool} {p q : Magnitude}
      (order : (if s then -p.value else p.value) ≤ (if t then -q.value else q.value)) :
      Le (finite s p) (finite t q)

instance : LE Double := ⟨Le⟩

section Order

variable {a b d v w : Double} {m : ℤ} {c x y : ℚ}

theorem le_iff_of_value? (left : a.value? = some x) (right : b.value? = some y) :
    a ≤ b ↔ x ≤ y := by
  obtain ⟨s, p, rfl, rfl⟩ := exists_finite_of_value? left
  obtain ⟨t, q, rfl, rfl⟩ := exists_finite_of_value? right
  constructor
  · intro ordered
    cases ordered with
    | finite order => exact order
  · exact Le.finite

theorem exists_value?_of_isFinite (finite : a.isFinite = true) : ∃ x, a.value? = some x := by
  cases a with
  | finite s p => exact ⟨_, value?_finite s p⟩
  | _ => cases finite

/-- What lies between finite doubles is one. -/
theorem isFinite_of_between (least : a.isFinite = true) (most : b.isFinite = true) (above : a ≤ d)
    (below : d ≤ b) : d.isFinite = true := by
  cases above with
  | least _ => cases least
  | greatest _ =>
      cases below with
      | greatest _ => cases most
  | finite _ => rfl

theorem isFinite_left_of_mul (finite : (a * b).isFinite = true) : a.isFinite = true := by
  change (mul a b).isFinite = true at finite
  cases a with
  | finite _ _ => rfl
  | nan => cases finite
  | infinite s =>
      cases b with
      | finite t q =>
          rw [mul] at finite
          split at finite <;> cases finite
      | _ => cases finite

theorem isFinite_left_of_div (finite : (a / b).isFinite = true) : a.isFinite = true := by
  change (div a b).isFinite = true at finite
  cases a with
  | finite _ _ => rfl
  | nan => cases finite
  | infinite s => cases b <;> cases finite

/-- Only a finite double has a scaled value. -/
theorem isFinite_of_scale_eq_some (scaled : scale a m = some v) : a.isFinite = true := by
  rcases Nat.lt_or_ge m.natAbs (2 ^ 31) with fits | past
  · rw [scale_of_fits a fits, Option.guard_eq_some_iff] at scaled
    obtain ⟨rfl, finite⟩ := scaled
    split at finite
    · exact isFinite_left_of_mul finite
    · exact isFinite_left_of_div finite
  · rw [scale_of_not_fits a past] at scaled
    cases scaled

theorem ScalesBy.value?_eq (factor : ScalesBy m c) (held : a.value? = some x)
    (scaled : scale a m = some v) :
    ∃ q, nearest? (|x| * c) = some q ∧ v.value? = some (if 0 ≤ x then q.value else -q.value) := by
  obtain ⟨s, p, rfl, rfl⟩ := exists_finite_of_value? held
  rw [factor.scale_eq held, Option.map_eq_some_iff] at scaled
  obtain ⟨q, rounded, rfl⟩ := scaled
  refine ⟨q, rounded, ?_⟩
  rw [abs_signed s p.value_nonneg] at rounded
  cases s with
  | false =>
      rw [if_neg Bool.false_ne_true, if_pos p.value_nonneg]
      rfl
  | true =>
      by_cases zero : p.value = 0
      · rw [zero, zero_mul, nearest?_zero, Option.some.injEq] at rounded
        rw [← rounded, value?_zero, value_zero, neg_zero, ite_self]
      · have negative : ¬ 0 ≤ -p.value := by
          have size := p.value_nonneg.lt_of_ne' zero
          linarith
        rw [if_pos rfl, if_neg negative]
        rfl

theorem ScalesBy.mono (factor : ScalesBy m c) (left : a.value? = some x) (right : b.value? = some y)
    (order : x ≤ y) (first : scale a m = some v) (second : scale b m = some w) : v ≤ w := by
  obtain ⟨q, down, value⟩ := factor.value?_eq left first
  obtain ⟨r, up, value'⟩ := factor.value?_eq right second
  have grows {x y : ℚ} (order : |x| ≤ |y|) : |x| * c ≤ |y| * c :=
    mul_le_mul_of_nonneg_right order factor.nonneg
  have nonneg (x : ℚ) : 0 ≤ |x| * c := mul_nonneg (abs_nonneg x) factor.nonneg
  rw [le_iff_of_value? value value']
  rcases le_or_gt 0 x with positive | negative
  · rw [if_pos positive, if_pos (positive.trans order)]
    exact nearest?_mono (nonneg x) (grows (abs_le_abs_of_nonneg positive order)) down up
  · rw [if_neg negative.not_ge]
    rcases le_or_gt 0 y with positive | negative'
    · rw [if_pos positive]
      exact (neg_nonpos.mpr q.value_nonneg).trans r.value_nonneg
    · rw [if_neg negative'.not_ge]
      refine neg_le_neg (nearest?_mono (nonneg y) (grows ?_) up down)
      rw [abs_of_neg negative', abs_of_neg negative]
      exact neg_le_neg order

/-- What lies between numbers that are scaled is scaled, since one of them is as large. -/
theorem ScalesBy.exists_between {z : ℚ} (factor : ScalesBy m c) (left : a.value? = some x)
    (right : b.value? = some y) (between : d.value? = some z) (above : x ≤ z) (below : z ≤ y)
    (first : scale a m = some v) (second : scale b m = some w) : ∃ u, scale d m = some u := by
  obtain ⟨q, down, -⟩ := factor.value?_eq left first
  obtain ⟨r, up, -⟩ := factor.value?_eq right second
  obtain ⟨p, rounded⟩ : ∃ p, nearest? (|z| * c) = some p := by
    have nonneg : 0 ≤ |z| * c := mul_nonneg (abs_nonneg z) factor.nonneg
    rcases le_max_iff.mp (abs_le_max_abs_abs above below) with small | small
    · exact exists_nearest?_of_le nonneg (mul_le_mul_of_nonneg_right small factor.nonneg) down
    · exact exists_nearest?_of_le nonneg (mul_le_mul_of_nonneg_right small factor.nonneg) up
  exact ⟨_, by rw [factor.scale_eq between, rounded]; rfl⟩

theorem scale_mono (order : a ≤ b) (first : scale a m = some v) (second : scale b m = some w) :
    v ≤ w ∧ ∀ d, a ≤ d → d ≤ b → ∃ u, scale d m = some u := by
  obtain ⟨x, left⟩ := exists_value?_of_isFinite (isFinite_of_scale_eq_some first)
  obtain ⟨y, right⟩ := exists_value?_of_isFinite (isFinite_of_scale_eq_some second)
  rcases scalesBy_or_none m with none | ⟨c, factor⟩
  · rw [none] at first
    cases first
  · refine ⟨factor.mono left right ((le_iff_of_value? left right).mp order) first second, ?_⟩
    intro d above below
    obtain ⟨z, between⟩ := exists_value?_of_isFinite (isFinite_of_between
      (isFinite_of_scale_eq_some first) (isFinite_of_scale_eq_some second) above below)
    exact factor.exists_between left right between ((le_iff_of_value? left between).mp above)
      ((le_iff_of_value? between right).mp below) first second

end Order

theorem scale_of_not_isFinite {a : Double} (m : ℤ) (infinite : a.isFinite = false) :
    scale a m = none := by
  refine Option.eq_none_iff_forall_ne_some.mpr fun v scaled => ?_
  rw [isFinite_of_scale_eq_some scaled] at infinite
  cases infinite

/-- The factor has no sign, and rounding treats both signs alike. -/
theorem scale_neg (a : Double) (m : ℤ) : scale (-a) m = (scale a m).map (-·) := by
  rcases scalesBy_or_none m with none | ⟨c, factor⟩
  · rw [none, none]
    rfl
  · cases a with
    | finite s p =>
        show scale (finite (!s) p) m = _
        rw [factor.scaled, factor.scaled, Option.map_map]
        rfl
    | nan => rw [scale_of_not_isFinite m rfl, scale_of_not_isFinite m rfl, Option.map_none]
    | infinite s => rw [scale_of_not_isFinite m rfl, scale_of_not_isFinite m rfl, Option.map_none]

end Double

namespace Report

open Double

variable {property : String} {attributes : Attributes} {report : Report} {t u : Threshold}
  {raw raw' : Double}

theorem shown_eq_some (held : attributes.raw.get t = some raw) {v : Double}
    (scaled : scale raw attributes.modifier = some v) : shown attributes t = some v := by
  rw [shown, held, Option.bind_some, scaled]

theorem mem_values (made : ofAttributes property attributes = .ok report) (t : Threshold) :
    (t, shown attributes t) ∈ report.values := by
  rw [(values_of_ofAttributes made).1]
  exact List.mem_map_of_mem t.mem_all

theorem values_ordered (made : ofAttributes property attributes = .ok report)
    (first : attributes.raw.get t = some raw) (second : attributes.raw.get u = some raw')
    (order : raw ≤ raw') :
    ∃ v w, (t, some v) ∈ report.values ∧ (u, some w) ∈ report.values ∧ v ≤ w := by
  obtain ⟨v, scaled, -⟩ := inRange_of_ofAttributes made t raw first
  obtain ⟨w, scaled', -⟩ := inRange_of_ofAttributes made u raw' second
  refine ⟨v, w, ?_, ?_, (scale_mono order scaled scaled').1⟩
  · exact shown_eq_some first scaled ▸ mem_values made t
  · exact shown_eq_some second scaled' ▸ mem_values made u

theorem integers_ordered (made : ofAttributes property attributes = .ok report)
    (plain : report.decimal = false) (first : attributes.raw.get t = some raw)
    (second : attributes.raw.get u = some raw') (order : raw ≤ raw') :
    ∃ (lineOf : Threshold → String) (j k : ℤ) (text text' : String),
      report.lines = Threshold.all.map lineOf ∧
      lineOf t = t.label ++ ":" ++ text ∧ IsNumeral text j ∧
      lineOf u = u.label ++ ":" ++ text' ∧ IsNumeral text' k ∧ j ≤ k := by
  obtain ⟨v, x, value, scaled, exact, least, most⟩ := shown_of_some made plain first
  obtain ⟨w, y, value', scaled', exact', least', most'⟩ := shown_of_some made plain second
  have less : x ≤ y := (le_iff_of_value? exact exact').mp (scale_mono order scaled scaled').1
  refine ⟨fun t => line false t (shown attributes t), towardZero x, towardZero y, _, _, ?_, ?_,
    isNumeral_integerText _, ?_, isNumeral_integerText _, towardZero_mono less⟩
  · rw [lines, (values_of_ofAttributes made).1, plain, List.map_map]
    rfl
  · exact (congrArg (line false t) value).trans (line_whole t exact least most)
  · exact (congrArg (line false u) value').trans (line_whole u exact' least' most')

/-- Scaling keeps the order of finite doubles and turns with their sign, and what lies between two
that can be scaled can be scaled. So the values of a report are in the order of its raw values, and
without decimals the integers of its lines are, too. -/
theorem keeps_order :
    (∀ (m : ℤ) (a b v w : Double), a ≤ b → scale a m = some v → scale b m = some w →
        v ≤ w ∧ ∀ d, a ≤ d → d ≤ b → ∃ u, scale d m = some u) ∧
      (∀ (m : ℤ) (a : Double), scale (-a) m = (scale a m).map (-·)) ∧
      ∀ (property : String) (attributes : Attributes) (report : Report),
        ofAttributes property attributes = .ok report →
        ∀ (t u : Threshold) (raw raw' : Double), attributes.raw.get t = some raw →
          attributes.raw.get u = some raw' → raw ≤ raw' →
          (∃ v w, (t, some v) ∈ report.values ∧ (u, some w) ∈ report.values ∧ v ≤ w) ∧
          (report.decimal = false →
            ∃ (lineOf : Threshold → String) (j k : ℤ) (text text' : String),
              report.lines = Threshold.all.map lineOf ∧
              lineOf t = t.label ++ ":" ++ text ∧ IsNumeral text j ∧
              lineOf u = u.label ++ ":" ++ text' ∧ IsNumeral text' k ∧ j ≤ k) := by
  refine ⟨fun _ _ _ _ _ => scale_mono, fun m a => scale_neg a m, ?_⟩
  intro property attributes report made t u raw raw' first second order
  exact ⟨values_ordered made first second order,
    fun plain => integers_ordered made plain first second order⟩

theorem keeps_order_fan :
    ∃ report v w, ofAttributes "/fan" fan = .ok report ∧
      (.upperCritical, some v) ∈ report.values ∧ (.lowerCritical, some w) ∈ report.values ∧ v ≤ w ∧
      (∃ (lineOf : Threshold → String) (j k : ℤ) (text text' : String),
        report.lines = Threshold.all.map lineOf ∧
        lineOf .upperCritical = "Upper Threshold Critical:" ++ text ∧ IsNumeral text j ∧
        lineOf .lowerCritical = "Lower Threshold Critical:" ++ text' ∧ IsNumeral text' k ∧ j ≤ k) ∧
      ∃ z, scale (.ofInt 0) fan.modifier = some z := by
  have order (j k : ℤ) (small : j.natAbs ≤ 2 ^ 53) (small' : k.natAbs ≤ 2 ^ 53) (less : j ≤ k) :
      Double.ofInt j ≤ .ofInt k :=
    (le_iff_of_value? (value?_ofInt small) (value?_ofInt small')).mpr (by exact_mod_cast less)
  have whole := order (-999) 1500 (by decide) (by decide) (by decide)
  obtain ⟨report, made⟩ : ∃ report, ofAttributes "/fan" fan = .ok report :=
    ⟨_, ofAttributes_ok "/fan" inRange_fan⟩
  have plain : report.decimal = false := by
    rw [(values_of_ofAttributes made).2]
    decide
  obtain ⟨keeps, -, reports⟩ := keeps_order
  obtain ⟨⟨v, w, first, second, less⟩, lines⟩ :=
    reports "/fan" fan report made .upperCritical .lowerCritical _ _ rfl rfl whole
  obtain ⟨low, -, scaled, -⟩ := scale_fan (n := -999) (by decide)
  obtain ⟨high, -, scaled', -⟩ := scale_fan (n := 1500) (by decide)
  obtain ⟨-, between⟩ := keeps _ _ _ low high whole scaled scaled'
  exact ⟨report, v, w, made, first, second, less, lines plain,
    between _ (order (-999) 0 (by decide) (by decide) (by decide))
      (order 0 1500 (by decide) (by decide) (by decide))⟩

end Report
end SensorThresholds
