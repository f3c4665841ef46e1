import SensorThresholds.Proofs.ReportText

/-!
Whole numbers in units without decimals. A threshold that is a whole number of at most 53 bits is
shown as the exact integer that the unit modifier makes of it, and never the reason that there is
no report.
-/

namespace SensorThresholds

/-- The threshold that a failure is about. -/
def Failure.threshold? : Failure → Option Threshold
  | missingThreshold t | nonNumericThreshold t _ | scaleOutOfRange t _ _ => some t
  | _ => none

theorem Number.value?_toDouble {number : Number} {n : ℤ} (whole : number.value? = some (n : ℚ))
    (small : n.natAbs ≤ 2 ^ 53) : number.toDouble.value? = some (n : ℚ) := by
  cases number with
  | integer k =>
      obtain rfl : k = n := by exact_mod_cast Option.some.inj whole
      exact Double.value?_ofInt small
  | float d => exact whole

theorem rawOf?_number {document : Document} {t : Threshold} {number : Number}
    (held : document.get? t.key = some (.number number)) :
    rawOf? document t = some (some number.toDouble) := by
  rw [rawOf?, held]

variable {property : String} {document : Document} {t : Threshold} {number : Number}
  {units : Option String} {n m : ℤ}

/-- Where there is no report although a threshold is in range, another one that is not null is to
blame. -/
theorem Yields.other_threshold {failure : Failure}
    (yields : Yields property document (.error failure)) (modifier : HasModifier document m)
    (measured : HasUnits document units)
    (held : document.get? t.key = some (.number number))
    (fits : InRange units m number.toDouble) :
    ∃ other, other ≠ t ∧ failure.threshold? = some other ∧
      document.get? other.key ≠ some .null := by
  cases yields with
  | notAnObject shape =>
      rw [modifier.isObject] at shape
      cases shape
  | noModifier shape none =>
      obtain ⟨k, integral, -⟩ := modifier
      simp [integral] at none
  | invalidModifier _ present other => exact absurd modifier (other m)
  | @missing _ u _ _ _ order earlier absent =>
      refine ⟨u, ?_, rfl, by simp [absent]⟩
      rintro rfl
      rw [held] at absent
      cases absent
  | @nonNumeric _ u _ _ value _ order earlier found present other =>
      refine ⟨u, ?_, rfl, by simpa [found] using present⟩
      rintro rfl
      rw [held] at found
      exact other number (Option.some.inj found).symm
  | @outOfRange _ _ raw u _ _ r same measured' read order earlier value out =>
      obtain rfl := Attributes.hasModifier_unique modifier same
      obtain rfl := hasUnits_unique measured measured'
      refine ⟨u, ?_, rfl, ?_⟩
      · rintro rfl
        have reads := rawOf?_number held
        rw [read u, value, Option.some.injEq, Option.some.injEq] at reads
        exact out (reads ▸ fits)
      · rw [ne_eq, ← rawOf?_eq_some_none_iff, read u, value]
        simp

theorem Yields.line_scaled {report : Report} (yields : Yields property document (.ok report))
    (modifier : HasModifier document m) (measured : HasUnits document units)
    (held : document.get? t.key = some (.number number)) {v : Double}
    (scaled : scale number.toDouble m = some v) :
    ∃ lineOf : Threshold → String, report.lines = Threshold.all.map lineOf ∧
      lineOf t = Report.line (decide (ShowsDecimals units)) t (some v) := by
  cases yields with
  | @report _ _ raw same measured' read fits =>
      obtain rfl := Attributes.hasModifier_unique modifier same
      obtain rfl := hasUnits_unique measured measured'
      have value : raw t = some number.toDouble := by
        have reads := rawOf?_number held
        rwa [read t, Option.some.injEq] at reads
      refine ⟨fun u => Report.line (decide (ShowsDecimals units)) u ((raw u).bind (scale · m)),
        ?_, ?_⟩
      · rw [Report.lines, List.map_map]
        rfl
      · show Report.line _ t ((raw t).bind (scale · m)) = _
        rw [value, Option.bind_some, scaled]

theorem Yields.line_whole {report : Report} (yields : Yields property document (.ok report))
    (modifier : HasModifier document m) (measured : HasUnits document units)
    (plain : ¬ ShowsDecimals units) (held : document.get? t.key = some (.number number))
    {v : Double} {x : ℚ} (scaled : scale number.toDouble m = some v) (exact : v.value? = some x)
    (least : -2 ^ 63 ≤ towardZero x) (most : towardZero x < 2 ^ 63) :
    ∃ lineOf : Threshold → String, report.lines = Threshold.all.map lineOf ∧
      lineOf t = t.label ++ ":" ++ .ofList (integerText (towardZero x)) := by
  obtain ⟨lineOf, lines, line⟩ := yields.line_scaled modifier measured held scaled
  refine ⟨lineOf, lines, ?_⟩
  rw [line, decide_eq_false plain, Report.line_whole t exact least most]

/-- A whole number within 53 bits, also when multiplied out, is shown exactly: as the product, or as
the quotient that division leaves. Where there is no report, another threshold is the reason. -/
theorem Report.whole_threshold_shown (property : String) (modifier : HasModifier document m)
    (defined : -(2 ^ 31 - 1) ≤ m) (measured : HasUnits document units)
    (plain : ¬ ShowsDecimals units) (held : document.get? t.key = some (.number number))
    (whole : number.value? = some (n : ℚ)) (small : n.natAbs ≤ 2 ^ 53)
    (bounded : m < 0 ∨ n.natAbs * 10 ^ m.toNat ≤ 2 ^ 53 ∧ (n ≠ 0 ∨ m ≤ 308)) :
    (∀ failure, ofDocument property document = .error failure →
        ∃ other, other ≠ t ∧ failure.threshold? = some other ∧
          document.get? other.key ≠ some .null) ∧
      (∀ report, ofDocument property document = .ok report →
        ∃ (lineOf : Threshold → String) (text : String),
          report.lines = Threshold.all.map lineOf ∧ lineOf t = t.label ++ ":" ++ text ∧
          IsNumeral text (towardZero (n * 10 ^ m))) ∧
      (0 ≤ m → towardZero (n * 10 ^ m) = n * 10 ^ m.toNat) ∧
      (m < 0 → towardZero (n * 10 ^ m) = n.tdiv (10 ^ m.natAbs)) := by
  have fits : m.natAbs < 2 ^ 31 := by
    obtain ⟨-, -, -, -, most⟩ := modifier
    omega
  obtain ⟨v, x, scaled, exact, same, least, most⟩ :=
    scale_whole_fits (number.value?_toDouble whole small) small fits bounded
  refine ⟨?_, ?_, towardZero_mul_tenPow n, towardZero_div_tenPow n⟩
  · intro failure failed
    exact (yields_iff.mpr failed).other_threshold modifier measured held
      ⟨v, scaled, .inr ⟨x, exact, least, most⟩⟩
  · intro report made
    obtain ⟨lineOf, lines, line⟩ :=
      (yields_iff.mpr made).line_whole modifier measured plain held scaled exact least most
    rw [same] at line
    exact ⟨lineOf, _, lines, line, isNumeral_integerText _⟩

/-- A fan in thousandths with one threshold, just below two. -/
def fanDocument : Document :=
  .object
    [("LowerThresholdCritical", .null), ("LowerThresholdNonCritical", .null),
      ("ReadingUnits", .string "RPM"), ("UnitModifier", .number (.integer (-3))),
      ("UpperThresholdCritical", .number (.integer 1999)), ("UpperThresholdNonCritical", .null)]

theorem Report.whole_threshold_shown_fan :
    ∃ report lineOf text, ofDocument "/fan" fanDocument = .ok report ∧
      report.lines = Threshold.all.map lineOf ∧
      lineOf .upperCritical = "Upper Threshold Critical:" ++ text ∧ IsNumeral text 1 := by
  have modifier : HasModifier fanDocument (-3) :=
    ⟨.integer (-3), rfl, rfl, by decide, by decide⟩
  have measured : HasUnits fanDocument (some "RPM") := by
    intro text
    simp [fanDocument, Json.get?]
  have held : fanDocument.get? Threshold.upperCritical.key = some (.number (.integer 1999)) := rfl
  obtain ⟨blamed, shown, -, cut⟩ := whole_threshold_shown "/fan" modifier (by decide) measured
    (by decide) held (n := 1999) rfl (by decide) (.inl (by decide))
  cases made : ofDocument "/fan" fanDocument with
  | error failure =>
      obtain ⟨other, different, -, present⟩ := blamed failure made
      cases other with
      | upperCritical => exact absurd rfl different
      | _ => exact absurd rfl present
  | ok report =>
      obtain ⟨lineOf, text, lines, line, numeral⟩ := shown report made
      rw [cut (by decide)] at numeral
      exact ⟨report, lineOf, text, rfl, lines, line, numeral⟩

end SensorThresholds
