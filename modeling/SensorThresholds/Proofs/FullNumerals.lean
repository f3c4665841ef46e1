import SensorThresholds.Proofs.DecimalDisplay
import SensorThresholds.Proofs.RoundingOrder

/-!
Doubles as they are shown in units with decimals: all digits in full, never with an exponent. The
text of every finite double is a canonical numeral to which it is the nearest double, so that no two
of them share a text. The numeral has places exactly below `10 ^ 16`.
-/

namespace SensorThresholds

/-- A number in full: a sign, digits without a superfluous zero in front, and after a point its
places. Without places there is no point. -/
structure FullNumeral where
  negative : Bool
  whole : List Char
  places : List Char
  whole_digits : whole.all Char.isDigit = true
  whole_nonempty : whole ≠ []
  whole_canonical : whole.head? = some '0' → whole = ['0']
  places_digits : places.all Char.isDigit = true

namespace FullNumeral

def pointChars (places : List Char) : List Char := if places = [] then [] else '.' :: places

def chars (t : FullNumeral) : List Char := signed t.negative (t.whole ++ pointChars t.places)

def text (t : FullNumeral) : String := .ofList t.chars

/-- The number that the digits are, the sign apart. -/
def magnitude (t : FullNumeral) : ℚ :=
  Nat.ofDigitChars 10 (t.whole ++ t.places) 0 / 10 ^ t.places.length

/-- The number that the text denotes. -/
def number (t : FullNumeral) : ℚ := if t.negative then -t.magnitude else t.magnitude

/-- The double nearest to the number, of two the one that is even, with the sign of the text. -/
def nearest (t : FullNumeral) : Double := .ofRounded t.negative (Magnitude.nearest? t.magnitude)

theorem magnitude_nonneg (t : FullNumeral) : 0 ≤ t.magnitude := by
  unfold magnitude
  positivity

theorem isDigit_head_whole (t : FullNumeral) :
    ∃ c rest, t.whole = c :: rest ∧ c.isDigit = true := by
  obtain ⟨c, rest, whole⟩ := List.exists_cons_of_ne_nil t.whole_nonempty
  exact ⟨c, rest, whole, List.all_eq_true.mp t.whole_digits c (by simp [whole])⟩

theorem not_isDigit_head_pointChars (places : List Char) (c : Char)
    (first : (pointChars places).head? = some c) : c.isDigit = false := by
  unfold pointChars at first
  split at first
  · cases first
  · obtain rfl := Option.some.inj first
    rfl

theorem pointChars_injective : Function.Injective pointChars := by
  intro first second same
  unfold pointChars at same
  split at same <;> split at same <;> simp_all

/-- The digits in front end where the digits of the text do. -/
theorem takeWhile_whole (t : FullNumeral) :
    (t.whole ++ pointChars t.places).takeWhile Char.isDigit = t.whole := by
  rw [List.takeWhile_append_of_pos (List.all_eq_true.mp t.whole_digits)]
  cases point : pointChars t.places with
  | nil => simp
  | cons c rest =>
      have other := not_isDigit_head_pointChars t.places c (by rw [point]; rfl)
      rw [List.takeWhile_cons_of_neg (by simp [other]), List.append_nil]

theorem signed_injective {s s' : Bool} {t t' : FullNumeral}
    (same : signed s (t.whole ++ pointChars t.places) =
      signed s' (t'.whole ++ pointChars t'.places)) :
    s = s' ∧ t.whole ++ pointChars t.places = t'.whole ++ pointChars t'.places := by
  have unsigned (t : FullNumeral) (rest : List Char) :
      t.whole ++ pointChars t.places ≠ '-' :: rest := by
    obtain ⟨c, others, whole, digit⟩ := t.isDigit_head_whole
    rw [whole, List.cons_append]
    rintro ⟨⟩
    cases digit
  cases s <;> cases s'
  · exact ⟨rfl, same⟩
  · exact absurd same (unsigned t _)
  · exact absurd same.symm (unsigned t' _)
  · exact ⟨rfl, (List.cons.inj same).2⟩

/-- The text shows the numeral. -/
theorem text_injective : Function.Injective text := by
  intro t t' same
  obtain ⟨sign, digits⟩ := signed_injective (String.ofList_injective same)
  have whole : t.whole = t'.whole := by rw [← t.takeWhile_whole, digits, t'.takeWhile_whole]
  rw [whole] at digits
  have places := pointChars_injective (List.append_cancel_left digits)
  cases t
  cases t'
  congr

/-- A number with a point, behind a sign. -/
def ofPointed (negative : Bool) (p : Pointed) : FullNumeral where
  negative := negative
  whole := p.whole
  places := p.fraction
  whole_digits := (decimal?_eq_some_iff.mp p.whole_reads).1
  whole_nonempty := p.whole_nonempty
  whole_canonical := p.whole_canonical
  places_digits := (decimal?_eq_some_iff.mp p.fraction_reads).1

theorem chars_ofPointed (negative : Bool) {p : Pointed} (placed : p.fraction ≠ []) :
    (ofPointed negative p).chars = signed negative p.text := by
  rw [chars, ofPointed, pointChars, if_neg placed, Pointed.text]

theorem magnitude_ofPointed (negative : Bool) (p : Pointed) :
    (ofPointed negative p).magnitude = p.digits * 10 ^ (-p.fraction.length : ℤ) := by
  have digits : decimal? (p.whole ++ p.fraction) = some p.digits :=
    decimal?_append_eq_some_iff.mpr ⟨_, _, p.whole_reads, p.fraction_reads, rfl⟩
  rw [magnitude, ofPointed, (decimal?_eq_some_iff.mp digits).2, zpow_neg, zpow_natCast,
    div_eq_mul_inv]

theorem decimalDigits_ne_nil (n : ℕ) : decimalDigits n ≠ [] := Nat.toDigits_ne_nil

theorem decimalDigits_canonical (n : ℕ) :
    (decimalDigits n).head? = some '0' → decimalDigits n = ['0'] :=
  (Pointed.ofWhole n).whole_canonical

/-- A whole number without places, behind a sign. -/
def ofWhole (negative : Bool) (n : ℕ) : FullNumeral where
  negative := negative
  whole := decimalDigits n
  places := []
  whole_digits := all_isDigit_decimalDigits n
  whole_nonempty := decimalDigits_ne_nil n
  whole_canonical := decimalDigits_canonical n
  places_digits := List.all_nil

theorem chars_ofWhole (negative : Bool) (n : ℕ) :
    (ofWhole negative n).chars = signed negative (decimalDigits n) := by
  rw [chars, ofWhole, pointChars, if_pos rfl, List.append_nil]

theorem magnitude_ofWhole (negative : Bool) (n : ℕ) : (ofWhole negative n).magnitude = n := by
  have digits := (decimal?_eq_some_iff.mp (decimal?_decimalDigits n)).2
  rw [magnitude, ofWhole, List.append_nil, digits, List.length_nil, pow_zero, div_one]

end FullNumeral

namespace Magnitude

variable {m : Magnitude} {k : ℕ}

/-- From `2 ^ 52` on doubles are whole. -/
theorem isWhole_of_le_value (large : 2 ^ 52 ≤ m.value) : m.isWhole = true := by
  -- The exponent of the unit is a variable, so that nothing evaluates the power.
  obtain ⟨unit, one⟩ : ∃ n, unitsPerOne = 2 ^ n := ⟨1074, by decide +kernel⟩
  have units : 2 ^ 52 * 2 ^ unit ≤ m.units := by
    rw [value, le_div_iff₀ unitsPerOne_cast_pos, one] at large
    exact_mod_cast large
  have coarser : unit ≤ m.shift := by
    by_contra finer
    exact absurd (units_lt_of_shift_lt (Nat.lt_of_not_le finer)) (Nat.not_lt.mpr units)
  rw [isWhole, beq_iff_eq, one, units_eq_of_shift_le coarser, Nat.mul_mod_left]

/-- A whole number is rounded to a whole one. -/
theorem isWhole_of_attracts (attracted : m.Attracts k) : m.isWhole = true := by
  by_contra fractional
  have small : m.value < 2 ^ 52 := by
    by_contra large
    exact fractional (isWhole_of_le_value (not_lt.mp large))
  have bits : k ≤ 2 ^ 53 := by
    obtain ⟨p, next⟩ := exists_value_eq_natCast (le_refl (2 ^ 53))
    have halfway := upper_le_halfway (p := p) (m := m) (by rw [next]; push_cast; linarith)
    have most := attracted.bounds.2
    rw [next] at halfway
    push_cast at halfway
    have below : (k : ℚ) ≤ 2 ^ 53 := by linarith
    exact_mod_cast below
  obtain ⟨q, rounded, exact⟩ := nearest?_natCast bits
  obtain rfl := attracted.unique (Nat.cast_nonneg k)
    ((nearest?_eq_some_iff (Nat.cast_nonneg k)).mp rounded)
  exact fractional (m.isWhole_iff.mpr ⟨k, by exact_mod_cast exact⟩)

theorem exists_natCast_of_isWhole (whole : m.isWhole = true) : ∃ k : ℕ, m.value = k := by
  obtain ⟨k, exact⟩ := m.isWhole_iff.mp whole
  obtain ⟨k, rfl⟩ := Int.eq_ofNat_of_zero_le (show 0 ≤ k by exact_mod_cast exact ▸ m.value_nonneg)
  exact ⟨k, by exact_mod_cast exact⟩

end Magnitude

namespace Decimal

open Magnitude

variable {m : Magnitude} {tie : Tie}

theorem attracts_shortest (tie : Tie) (m : Magnitude) : m.Attracts (shortest tie m).value :=
  readsAs_iff.mp (shortest_readsAs tie m)

theorem shortest_digits_pos (nonzero : m.value ≠ 0) : 0 < (shortest tie m).digits := by
  apply Nat.pos_of_ne_zero
  intro none
  have attracted := attracts_shortest tie m
  have origin := zero.attracts_value
  rw [value, none, Nat.cast_zero, zero_mul] at attracted
  rw [value_zero] at origin
  rw [attracted.unique le_rfl origin, value_zero] at nonzero
  exact nonzero rfl

/-- The value of a decimal without places. -/
theorem value_of_nonneg {d : Decimal} (nonneg : 0 ≤ d.exponent) :
    d.value = (d.digits * 10 ^ d.exponent.toNat : ℕ) := by
  obtain ⟨k, exponent⟩ := Int.eq_ofNat_of_zero_le nonneg
  rw [value, exponent, zpow_natCast, Int.toNat_natCast]
  push_cast
  rfl

/-- The shortest decimal of what is not whole has places. -/
theorem shortest_exponent_neg (fractional : m.isWhole = false) :
    (shortest tie m).exponent < 0 := by
  by_contra nonneg
  have attracted := attracts_shortest tie m
  rw [value_of_nonneg (not_lt.mp nonneg)] at attracted
  rw [isWhole_of_attracts attracted] at fractional
  cases fractional

/-- The shortest decimal of what is whole has no places. -/
theorem shortest_exponent_nonneg (whole : m.isWhole = true) (nonzero : m.value ≠ 0) :
    0 ≤ (shortest tie m).exponent := by
  obtain ⟨k, exact⟩ := exists_natCast_of_isWhole whole
  have reads : readsAs ⟨k, 0⟩ m = true := by
    rw [readsAs_iff, value, zpow_zero, mul_one, ← exact]
    exact m.attracts_value
  have digits : m.significand ≠ 0 := by
    intro none
    rw [m.value_eq, none, Nat.cast_zero, zero_mul] at nonzero
    exact nonzero rfl
  obtain ⟨e, -, -, point, coarser⟩ := shortest_onGrid digits tie
  obtain ⟨-, grid⟩ := readsAs_of_onGrid? point
  rw [grid]
  by_contra fine
  -- The grid of the integers is coarser, and is tried.
  have tried : 0 ≤ coarsest m := by
    have least : (1 : ℚ) ≤ m.value := by
      rw [exact]
      exact_mod_cast Nat.one_le_iff_ne_zero.mpr fun none =>
        nonzero (by rw [exact, none, Nat.cast_zero])
    have past := (coarsest_bounds m).1
    have scale := (value_scale digits).2
    by_contra negative
    have small : (10 : ℚ) ^ coarsest m ≤ 10 ^ (-1 : ℤ) :=
      zpow_le_zpow_right₀ (by norm_num) (by omega)
    norm_num at small
    linarith
  obtain ⟨d, found⟩ := exists_onGrid? reads tie
  rw [coarser 0 (not_le.mp fine) tried] at found
  cases found

theorem positional_of_nonneg {d : Decimal} (positive : 0 < d.digits) (nonneg : 0 ≤ d.exponent) :
    d.positional = decimalDigits (d.digits * 10 ^ d.exponent.toNat) := by
  rw [decimalDigits_mul_tenPow positive, positional, if_pos (by omega)]

end Decimal

theorem Report.line_decimal (t : Threshold) (v : Double) :
    line true t (some v) = t.label ++ " :" ++ v.measured := rfl

namespace Double

open Magnitude

variable (s : Bool) {m : Magnitude}

theorem measured_of_not_kept (other : m.isWhole = false ∨ ¬ m.wholePart < 10 ^ 16) :
    (finite s m).measured = .ofList (signed s (Decimal.shortest .upper m).positional) := by
  have odd : (m.isWhole && decide (m.wholePart < Nat.pow 10 16)) = false := by
    rw [Bool.and_eq_false_iff, decide_eq_false_iff_not]
    exact other
  rw [measured, odd]
  rfl

/-- The numeral is what is shown of the double, and the double is the nearest one to it. -/
structure IsShownAs (m : Magnitude) (t : FullNumeral) : Prop where
  text : (finite s m).measured = t.text
  sign : t.negative = s
  attracts : m.Attracts t.magnitude

theorem isShownAs_of_small {k : ℕ} (exact : m.value = k) (small : k < 10 ^ 16) :
    IsShownAs s m (.ofPointed s (.ofWhole k)) where
  text := by
    rw [measured_whole s exact small, FullNumeral.text,
      FullNumeral.chars_ofPointed s (List.cons_ne_nil _ _)]
  sign := rfl
  attracts := by
    have attracted := m.attracts_value
    rw [FullNumeral.magnitude_ofPointed]
    simpa [Pointed.ofWhole, Pointed.digits, exact] using attracted

theorem exists_isShownAs_of_large {k : ℕ} (exact : m.value = k) (large : 10 ^ 16 ≤ k) :
    ∃ n, IsShownAs s m (.ofWhole s n) := by
  have whole : m.isWhole = true := m.isWhole_iff.mpr ⟨k, by exact_mod_cast exact⟩
  have nonzero : m.value ≠ 0 := by
    rw [exact, Nat.cast_ne_zero]
    omega
  have nonneg : 0 ≤ (Decimal.shortest .upper m).exponent :=
    Decimal.shortest_exponent_nonneg whole nonzero
  have positive : 0 < (Decimal.shortest .upper m).digits := Decimal.shortest_digits_pos nonzero
  have past : ¬ m.wholePart < 10 ^ 16 := by rwa [wholePart_of_value_eq exact, not_lt]
  refine ⟨(Decimal.shortest .upper m).digits * 10 ^ (Decimal.shortest .upper m).exponent.toNat, ?_,
    rfl, ?_⟩
  · rw [measured_of_not_kept s (.inr past), Decimal.positional_of_nonneg positive nonneg,
      FullNumeral.text, FullNumeral.chars_ofWhole]
  · rw [FullNumeral.magnitude_ofWhole, ← Decimal.value_of_nonneg nonneg]
    exact Decimal.attracts_shortest .upper m

theorem exists_isShownAs_of_fractional (fractional : m.isWhole = false) :
    ∃ p : Pointed, p.fraction ≠ [] ∧ IsShownAs s m (.ofPointed s p) := by
  have places : (Decimal.shortest .upper m).exponent < 0 :=
    Decimal.shortest_exponent_neg fractional
  have nonzero : m.value ≠ 0 := by
    intro none
    rw [m.isWhole_iff.mpr ⟨0, by rw [none, Int.cast_zero]⟩] at fractional
    cases fractional
  have positive : 0 < (Decimal.shortest .upper m).digits := Decimal.shortest_digits_pos nonzero
  obtain ⟨p, text, digits, length, -⟩ := Decimal.exists_pointed positive places
  have placed : p.fraction ≠ [] := by
    intro none
    rw [none, List.length_nil] at length
    omega
  refine ⟨p, placed, ?_, rfl, ?_⟩
  · rw [measured_of_not_kept s (.inl fractional), text, FullNumeral.text,
      FullNumeral.chars_ofPointed s placed]
  · rw [FullNumeral.magnitude_ofPointed, digits, length, neg_neg]
    exact Decimal.attracts_shortest .upper m

/-- Every finite double is shown as a numeral, with places exactly below `10 ^ 16`. -/
theorem exists_isShownAs (m : Magnitude) :
    ∃ t, IsShownAs s m t ∧ (t.places ≠ [] ↔ m.value < 10 ^ 16) := by
  cases whole : m.isWhole with
  | true =>
      obtain ⟨k, exact⟩ := exists_natCast_of_isWhole whole
      rcases lt_or_ge k (10 ^ 16) with small | large
      · refine ⟨_, isShownAs_of_small s exact small, iff_of_true (List.cons_ne_nil _ _) ?_⟩
        rw [exact]
        exact_mod_cast small
      · obtain ⟨n, shown⟩ := exists_isShownAs_of_large s exact large
        refine ⟨_, shown, iff_of_false (fun placed => placed rfl) ?_⟩
        rw [exact, not_lt]
        exact_mod_cast large
  | false =>
      obtain ⟨p, placed, shown⟩ := exists_isShownAs_of_fractional s whole
      refine ⟨_, shown, iff_of_true placed ?_⟩
      by_contra large
      have past : 2 ^ 52 ≤ m.value := le_trans (by norm_num) (not_lt.mp large)
      rw [isWhole_of_le_value past] at whole
      cases whole

theorem IsShownAs.nearest {t : FullNumeral} (shown : IsShownAs s m t) :
    t.nearest = finite s m := by
  rw [FullNumeral.nearest, (nearest?_eq_some_iff t.magnitude_nonneg).mpr shown.attracts, shown.sign]
  rfl

theorem IsShownAs.isNearest {t : FullNumeral} (shown : IsShownAs s m t) :
    (finite s m).IsNearest t.number := by
  have rounded := (nearest?_eq_some_iff t.magnitude_nonneg).mpr shown.attracts
  rw [FullNumeral.number, shown.sign]
  exact isNearest_of_nearest? s t.magnitude_nonneg rounded

/-- Every finite double is shown in full as a canonical numeral, and is the double nearest to what
that denotes, bit by bit and with its sign; of two such doubles it is the even one. So no two finite
doubles have the same line among those with decimals. -/
theorem measured_reads_back (m : Magnitude) :
    (∃ t : FullNumeral, (finite s m).measured = t.text ∧ t.nearest = finite s m ∧
        (finite s m).IsNearest t.number) ∧
      ∀ (threshold : Threshold) (s' : Bool) (m' : Magnitude),
        Report.line true threshold (some (finite s m)) =
            Report.line true threshold (some (finite s' m')) ↔
          finite s m = finite s' m' := by
  obtain ⟨t, shown, -⟩ := exists_isShownAs s m
  refine ⟨⟨t, shown.text, shown.nearest, shown.isNearest⟩, fun threshold s' m' => ⟨?_, ?_⟩⟩
  · intro same
    obtain ⟨t', shown', -⟩ := exists_isShownAs s' m'
    rw [Report.line_decimal, Report.line_decimal, String.append_right_inj, shown.text,
      shown'.text] at same
    rw [← shown.nearest, FullNumeral.text_injective same, shown'.nearest]
  · intro same
    rw [same]

end Double
end SensorThresholds
