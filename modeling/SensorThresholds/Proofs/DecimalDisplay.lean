import SensorThresholds.Proofs.DecimalText
import SensorThresholds.Proofs.IntegerDisplay
import SensorThresholds.Proofs.ShortestDecimal

/-!
Whole numbers in units with decimals. A threshold that is a whole number of at most fifteen digits is
shown as the exact decimal that the unit modifier makes of it. It is rounded to a double on the way,
but no other decimal of so few digits is rounded to the same one.
-/

namespace SensorThresholds

/-- The canonical decimal numeral of a number: digits on both sides of a point, in front of it no
superfluous zero, and after it none at the end. Only the sign of a zero is free. -/
def IsDecimal (text : String) (negative : Bool) (x : ℚ) : Prop :=
  ∃ p : Pointed, text.toList = (if negative then '-' :: p.text else p.text) ∧
    x = (if negative then -1 else 1) * (p.wholeValue + p.fractionValue / 10 ^ p.fraction.length) ∧
    p.fraction ≠ [] ∧ (p.fraction.getLast? = some '0' → p.fraction = ['0'])

namespace Pointed

/-- The number that the digits are. -/
theorem value_eq (p : Pointed) :
    (p.wholeValue + p.fractionValue / 10 ^ p.fraction.length : ℚ) =
      p.digits * 10 ^ (-p.fraction.length : ℤ) := by
  rw [digits, zpow_neg, zpow_natCast]
  push_cast
  field_simp

end Pointed

/-- A whole number times a power of ten is whole, or has places and does not end in zero. -/
theorem exists_decimal (n : ℕ) (m : ℤ) :
    (∃ k : ℕ, (n * 10 ^ m : ℚ) = k) ∨
      ∃ d : Decimal, (n * 10 ^ m : ℚ) = d.value ∧ ¬ 10 ∣ d.digits ∧ d.digits ≤ n ∧
        m ≤ d.exponent ∧ d.exponent < 0 := by
  induction n using Nat.strong_induction_on generalizing m with
  | _ n ih =>
      by_cases nonneg : 0 ≤ m
      · obtain ⟨k, rfl⟩ := Int.eq_ofNat_of_zero_le nonneg
        exact .inl ⟨n * 10 ^ k, by push_cast; rw [zpow_natCast]⟩
      · by_cases padded : 10 ∣ n
        · obtain ⟨c, rfl⟩ := padded
          rcases Nat.eq_zero_or_pos c with rfl | positive
          · exact .inl ⟨0, by simp⟩
          · have shorter : ((10 * c : ℕ) * 10 ^ m : ℚ) = c * 10 ^ (m + 1) := by
              rw [zpow_add_one₀ (by norm_num)]
              push_cast
              ring
            rw [shorter]
            rcases ih c (by omega) (m + 1) with whole | ⟨d, same, digits, few, least, places⟩
            · exact .inl whole
            · exact .inr ⟨d, same, digits, by omega, by omega, places⟩
        · exact .inr ⟨⟨n, m⟩, rfl, padded, le_refl n, le_refl m, Int.not_le.mp nonneg⟩

namespace Decimal

/-- A decimal of at most fifteen digits that does not end in zero is the shortest one of its
double. -/
theorem sole_of_few {d : Decimal} {q : Magnitude} (few : d.digits < 10 ^ 15)
    (least : -300 ≤ d.exponent) (unpadded : ¬ 10 ∣ d.digits) (reads : q.Attracts d.value) :
    d.Sole q where
  reads := readsAs_iff.mpr reads
  unpadded := unpadded
  only _ other := eq_of_readsAs few least (readsAs_iff.mpr reads) other

/-- A double whose shortest decimal has places is not whole. -/
theorem Sole.not_isWhole {d : Decimal} {q : Magnitude} (sole : d.Sole q) (places : d.exponent < 0) :
    q.isWhole = false := by
  rw [Bool.eq_false_iff]
  intro whole
  obtain ⟨k, exact⟩ := q.isWhole_iff.mp whole
  obtain ⟨k, rfl⟩ := Int.eq_ofNat_of_zero_le (show 0 ≤ k by exact_mod_cast exact ▸ q.value_nonneg)
  have reads : readsAs ⟨k, 0⟩ q = true := by
    rw [readsAs_iff, value, zpow_zero, mul_one, ← Int.cast_natCast, ← exact]
    exact q.attracts_value
  exact absurd (sole.not_coarser reads) (by omega)

end Decimal

namespace Double

open Magnitude

variable {s : Bool} {p q : Magnitude} {m : ℤ}

/-- With an exact power of ten only the product or the quotient is rounded. -/
theorem scale_rounded (small : m.natAbs ≤ 22) (rounded : nearest? (p.value * 10 ^ m) = some q) :
    scale (finite s p) m = some (finite s q) := by
  rw [(scalesBy_tenPow small).scaled, rounded]
  rfl

theorem measured_whole (s : Bool) {n : ℕ} (exact : q.value = n) (small : n < 10 ^ 16) :
    (finite s q).measured = .ofList (signed s (Pointed.ofWhole n).text) := by
  have whole : q.isWhole = true := q.isWhole_iff.mpr ⟨n, by exact_mod_cast exact⟩
  rw [measured, wholePart_of_value_eq exact, whole,
    decide_eq_true (show n < Nat.pow 10 16 from small)]
  rfl

theorem measured_decimal (s : Bool) {d : Decimal} (sole : d.Sole q) (places : d.exponent < 0) :
    (finite s q).measured = .ofList (signed s d.positional) := by
  rw [measured, sole.not_isWhole places, plain, sole.shortest_eq]
  rfl

/-- The double nearest to a number of at most fifteen digits is shown as that number. -/
theorem measured_isDecimal (s : Bool) {n : ℕ} (few : n < 10 ^ 15) (least : -300 ≤ m)
    (bounded : (n * 10 ^ m : ℚ) < 10 ^ 15) (rounded : nearest? (n * 10 ^ m) = some q) :
    IsDecimal (finite s q).measured s ((if s then -1 else 1) * (n * 10 ^ m)) := by
  rcases exists_decimal n m with ⟨k, whole⟩ | ⟨d, same, unpadded, digits, order, places⟩
  · rw [whole] at bounded rounded ⊢
    have small : k < 10 ^ 15 := by exact_mod_cast bounded
    obtain ⟨q', rounded', exact⟩ := nearest?_natCast (n := k) (by omega)
    obtain rfl := Option.some.inj (rounded.symm.trans rounded')
    refine ⟨.ofWhole k, ?_, ?_, List.cons_ne_nil _ _, fun _ => rfl⟩
    · rw [measured_whole s exact (by omega), String.toList_ofList]
      rfl
    · simp [Pointed.ofWhole]
  · have nonneg : 0 ≤ d.value := d.value_nonneg
    rw [same] at rounded ⊢
    have sole : d.Sole q := Decimal.sole_of_few (by omega) (by omega) unpadded
      ((nearest?_eq_some_iff nonneg).mp rounded)
    obtain ⟨p, text, number, length, last⟩ := Decimal.exists_pointed sole.digits_pos places
    refine ⟨p, ?_, ?_, ?_, ?_⟩
    · rw [measured_decimal s sole places, String.toList_ofList, text]
      rfl
    · rw [p.value_eq, number, Decimal.value, length, neg_neg]
    · intro none
      rw [none] at length
      simp at length
      omega
    · intro zero
      rw [last, Option.some.injEq, Nat.digitChar_eq_zero] at zero
      exact absurd (Nat.dvd_of_mod_eq_zero zero) unpadded

end Double

namespace Number

/-- Whether a number has a minus sign; a zero has one only as a double. -/
def isNegative : Number → Bool
  | integer n => decide (n < 0)
  | float (.finite negative _) => negative
  | float _ => false

theorem toDouble_eq_finite {number : Number} {n : ℤ} (whole : number.value? = some (n : ℚ))
    (small : n.natAbs ≤ 2 ^ 53) :
    ∃ p : Magnitude, number.toDouble = .finite number.isNegative p ∧ p.value = n.natAbs ∧
      (n : ℚ) = (if number.isNegative then -1 else 1) * n.natAbs := by
  obtain ⟨s, p, made, signed⟩ := Double.exists_finite_of_value? (number.value?_toDouble whole small)
  have sign : s = number.isNegative := by
    cases number with
    | integer k =>
        obtain rfl : k = n := by exact_mod_cast Option.some.inj whole
        obtain ⟨p', made', -⟩ := Double.exists_ofInt small
        exact (Double.finite.inj (made.symm.trans made')).1
    | float d =>
        obtain rfl : d = .finite s p := made
        rfl
  have size : p.value = n.natAbs := by
    rw [Nat.cast_natAbs, Int.cast_abs, signed, Double.abs_signed s p.value_nonneg]
  refine ⟨p, sign ▸ made, size, ?_⟩
  rw [← sign, ← size, signed]
  cases s <;> simp

end Number

variable {property : String} {document : Document} {t : Threshold} {number : Number}
  {units : Option String} {n m : ℤ}

/-- Fifteen digits at most, also when scaled, are shown exactly, whatever the powers of ten and the
digits are. Where there is no report, another threshold is the reason. -/
theorem Report.decimal_threshold_shown (property : String) (modifier : HasModifier document m)
    (least : -22 ≤ m) (most : m ≤ 22) (measured : HasUnits document units)
    (decimals : ShowsDecimals units) (held : document.get? t.key = some (.number number))
    (whole : number.value? = some (n : ℚ)) (few : |n| < 10 ^ 15)
    (bounded : |(n * 10 ^ m : ℚ)| < 10 ^ 15) :
    (∀ failure, ofDocument property document = .error failure →
        ∃ other, other ≠ t ∧ failure.threshold? = some other ∧
          document.get? other.key ≠ some .null) ∧
      (∀ report, ofDocument property document = .ok report →
        ∃ (lineOf : Threshold → String) (text : String),
          report.lines = Threshold.all.map lineOf ∧ lineOf t = t.label ++ " :" ++ text ∧
          IsDecimal text number.isNegative (n * 10 ^ m)) := by
  have digits : n.natAbs < 10 ^ 15 := by
    rw [Int.abs_eq_natAbs] at few
    omega
  obtain ⟨p, raw, size, sign⟩ := number.toDouble_eq_finite whole (by omega)
  have scaled : |(n * 10 ^ m : ℚ)| = n.natAbs * 10 ^ m := by
    rw [abs_mul, abs_of_pos (Decimal.tenPow_pos m), Nat.cast_natAbs, Int.cast_abs]
  rw [scaled] at bounded
  obtain ⟨q, rounded⟩ : ∃ q, Magnitude.nearest? (n.natAbs * 10 ^ m) = some q := by
    obtain ⟨largest, value⟩ := Magnitude.exists_value_eq_natCast (show 10 ^ 15 ≤ 2 ^ 53 by decide)
    refine Magnitude.exists_nearest? (p := largest) (by positivity) ?_
    rw [value]
    exact_mod_cast bounded.le
  have made : scale number.toDouble m = some (.finite number.isNegative q) := by
    rw [raw]
    exact Double.scale_rounded (by omega) (size ▸ rounded)
  refine ⟨?_, ?_⟩
  · intro failure failed
    exact (yields_iff.mpr failed).other_threshold modifier measured held ⟨_, made, .inl decimals⟩
  · intro report reported
    obtain ⟨lineOf, lines, line⟩ := (yields_iff.mpr reported).line_scaled modifier measured held made
    refine ⟨lineOf, (Double.finite number.isNegative q).measured, lines, ?_, ?_⟩
    · rw [line, decide_eq_true decimals]
      rfl
    · have exact := Double.measured_isDecimal number.isNegative digits (by omega) bounded rounded
      rw [← mul_assoc, ← sign] at exact
      exact exact

/-- A power supply in thousandths with one threshold, a little above one. -/
def supplyDocument : Document :=
  .object
    [("LowerThresholdCritical", .number (.integer 1100)), ("LowerThresholdNonCritical", .null),
      ("ReadingUnits", .string "Volts"), ("UnitModifier", .number (.integer (-3))),
      ("UpperThresholdCritical", .null), ("UpperThresholdNonCritical", .null)]

theorem Report.decimal_threshold_shown_supply :
    ∃ report lineOf text, ofDocument "/supply" supplyDocument = .ok report ∧
      report.lines = Threshold.all.map lineOf ∧
      lineOf .lowerCritical = "Lower Threshold Critical :" ++ text ∧
      IsDecimal text false (11 / 10) := by
  have modifier : HasModifier supplyDocument (-3) :=
    ⟨.integer (-3), rfl, rfl, by decide, by decide⟩
  have measured : HasUnits supplyDocument (some "Volts") := by
    intro text
    simp [supplyDocument, Json.get?]
  have held : supplyDocument.get? Threshold.lowerCritical.key = some (.number (.integer 1100)) := rfl
  have exact : ((1100 : ℤ) * 10 ^ (-3 : ℤ) : ℚ) = 11 / 10 := by norm_num
  obtain ⟨blamed, shown⟩ := decimal_threshold_shown "/supply" modifier (by decide) (by decide)
    measured (.inr (.inr rfl)) held (n := 1100) rfl (by decide) (by rw [exact]; norm_num)
  cases made : ofDocument "/supply" supplyDocument with
  | error failure =>
      obtain ⟨other, different, -, present⟩ := blamed failure made
      cases other with
      | lowerCritical => exact absurd rfl different
      | _ => exact absurd rfl present
  | ok report =>
      obtain ⟨lineOf, text, lines, line, numeral⟩ := shown report made
      rw [exact] at numeral
      exact ⟨report, lineOf, text, rfl, lines, line, numeral⟩

end SensorThresholds
