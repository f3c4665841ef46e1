import SensorThresholds.Proofs.FullNumerals

/-!
The lines of a report in units with decimals. A value below `10 ^ 16` is shown with at least one
place, and a larger one, which is always whole, without a point. Neither has the line of a value in
units without decimals.
-/

namespace SensorThresholds

theorem Threshold.colon_not_mem_label (t : Threshold) : ':' ∉ t.label.toList := by
  cases t <;> decide

/-- No label is another one with a blank behind it. -/
theorem Threshold.label_append_blank_ne (t t' : Threshold) :
    t.label.toList ++ [' '] ≠ t'.label.toList := by
  cases t <;> cases t' <;> decide

namespace Report

variable {property : String} {attributes : Attributes} {report : Report}

/-- What stands before the colon tells the lines with decimals from those without. -/
theorem line_decimal_ne_line_whole (t t' : Threshold) (v w : Double) :
    line true t (some v) ≠ line false t' (some w) := by
  have named {cs rest : List Char} (free : ':' ∉ cs) :
      (cs ++ ':' :: rest).takeWhile (· ≠ ':') = cs := by
    have all : ∀ c ∈ cs, decide (c ≠ ':') = true := by
      intro c member
      exact decide_eq_true fun same => free (same ▸ member)
    rw [List.takeWhile_append_of_pos all, List.takeWhile_cons_of_neg (by decide), List.append_nil]
  have whole : (line false t' (some w)).toList =
      t'.label.toList ++ ':' :: integerText w.wholeNumber := by
    show (t'.label ++ ":" ++ String.ofList _).toList = _
    simp
  have decimal : (line true t (some v)).toList =
      t.label.toList ++ [' '] ++ ':' :: v.measured.toList := by
    rw [line_decimal]
    simp
  have free : ':' ∉ t.label.toList ++ [' '] := by
    simp [t.colon_not_mem_label]
  intro same
  have front := congrArg (fun text : String => text.toList.takeWhile (· ≠ ':')) same
  simp only [whole, decimal, named free, named t'.colon_not_mem_label] at front
  exact t.label_append_blank_ne t' front

theorem exists_line_decimal (t : Threshold) {v : Double} (finite : v.isFinite = true) :
    ∃ (x : ℚ) (numeral : FullNumeral), v.value? = some x ∧
      line true t (some v) = t.label ++ " :" ++ numeral.text ∧ numeral.nearest = v ∧
      (numeral.places ≠ [] ↔ |x| < 10 ^ 16) := by
  cases v with
  | finite s m =>
      obtain ⟨numeral, shown, places⟩ := Double.exists_isShownAs s m
      refine ⟨_, numeral, Double.value?_finite s m, ?_, shown.nearest, ?_⟩
      · rw [line_decimal, shown.text]
      · rw [places, Double.abs_signed s m.value_nonneg]
  | _ => cases finite

/-- In units with decimals the line of a value is its label, a blank, a colon and a numeral to which
it is the nearest double. The numeral has a point, with at least one place behind it, exactly where
the value is below `10 ^ 16`. The line is never that of a value without decimals. -/
theorem decimal_lines_placed (made : ofAttributes property attributes = .ok report)
    (decimals : attributes.isDecimal = true) :
    ∃ lineOf : Threshold → String, report.lines = Threshold.all.map lineOf ∧
      ∀ t v, (t, some v) ∈ report.values →
        ∃ (x : ℚ) (numeral : FullNumeral), v.value? = some x ∧
          lineOf t = t.label ++ " :" ++ numeral.text ∧ numeral.nearest = v ∧
          (numeral.places ≠ [] ↔ |x| < 10 ^ 16) ∧
          ∀ t' w, lineOf t ≠ line false t' (some w) := by
  obtain ⟨values, decimal⟩ := values_of_ofAttributes made
  rw [← attributes.isDecimal_eq, decimals] at decimal
  refine ⟨fun t => line true t (shown attributes t), ?_, ?_⟩
  · rw [lines, values, decimal, List.map_map]
    rfl
  · intro t v member
    rw [values, List.mem_map] at member
    obtain ⟨t, -, same⟩ := member
    obtain ⟨rfl, value⟩ := Prod.mk.inj same
    obtain ⟨x, numeral, exact, shows, nearest, places⟩ :=
      exists_line_decimal t (isFinite_of_shown value)
    dsimp only
    rw [value]
    exact ⟨x, numeral, exact, shows, nearest, places,
      fun t' w => line_decimal_ne_line_whole t t' v w⟩

/-- A power supply with a threshold on either side of `10 ^ 16`. -/
def wideSupply : Attributes :=
  ⟨0, some "Watts", ⟨some (.ofInt 12), none, some (.ofInt (10 ^ 16)), none⟩⟩

theorem decimal_lines_placed_supply :
    wideSupply.isDecimal = true ∧ ∃ report lineOf,
      ofAttributes "/supply" wideSupply = .ok report ∧
      report.lines = Threshold.all.map lineOf ∧
      (∃ numeral : FullNumeral,
        lineOf .lowerCritical = "Lower Threshold Critical :" ++ numeral.text ∧
          numeral.places ≠ []) ∧
      ∃ numeral : FullNumeral,
        lineOf .upperCritical = "Upper Threshold Critical :" ++ numeral.text ∧
          numeral.places = [] := by
  have decimals : wideSupply.isDecimal = true := by decide
  have large : (Double.ofInt (10 ^ 16)).value? = some (10 ^ 16) := by
    obtain ⟨p, power⟩ := Magnitude.exists_value_eq_tenPow (n := 16) (by decide)
    obtain ⟨q, rounded, exact⟩ := Magnitude.nearest?_of_value_eq power
    have whole : (((10 ^ 16 : ℤ).natAbs : ℕ) : ℚ) = 10 ^ 16 := by norm_num
    rw [Double.ofInt_eq, whole, rounded, decide_eq_false (by norm_num)]
    exact congrArg some exact
  have values : (ofAttributes "/supply" wideSupply).toOption.map Report.values = some
      [(.lowerCritical, some (.ofInt 12)), (.lowerWarning, none),
        (.upperCritical, some (.ofInt (10 ^ 16))), (.upperWarning, none)] := by
    decide +kernel
  cases made : ofAttributes "/supply" wideSupply with
  | error failure =>
      rw [made] at values
      cases values
  | ok report =>
      rw [made] at values
      have values : report.values = _ := Option.some.inj values
      obtain ⟨lineOf, lines, each⟩ := decimal_lines_placed made decimals
      obtain ⟨x, numeral, exact, line, -, places, -⟩ :=
        each .lowerCritical (.ofInt 12) (by simp [values])
      obtain ⟨x', numeral', exact', line', -, places', -⟩ :=
        each .upperCritical (.ofInt (10 ^ 16)) (by simp [values])
      rw [Double.value?_ofInt (by decide)] at exact
      rw [large] at exact'
      obtain rfl := Option.some.inj exact
      obtain rfl := Option.some.inj exact'
      refine ⟨decimals, report, lineOf, rfl, lines, ⟨numeral, line, ?_⟩, ⟨numeral', line', ?_⟩⟩
      · exact places.mpr (by norm_num)
      · by_contra placed
        exact absurd (places'.mp placed) (by norm_num)

/-- A whole value that is shown without a point. -/
theorem decimal_line_without_point :
    wideSupply.isDecimal = true ∧
      (ofAttributes "/supply" wideSupply).toOption.map lines = some
        ["Lower Threshold Critical :12.0", "Lower Threshold Warning property is null",
          "Upper Threshold Critical :10000000000000000",
          "Upper Threshold Warning property is null"] ∧
      '.' ∉ "Upper Threshold Critical :10000000000000000".toList := by
  decide +kernel

end Report
end SensorThresholds
