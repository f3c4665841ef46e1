import SensorThresholds.Proofs.AttributesDocument
import SensorThresholds.Proofs.Numerals
import SensorThresholds.Proofs.Truncation

/-!
What a report shows. Its values are finite, so that the line of JSON has null exactly for a
threshold that the sensor does not have, and a line of text without decimals has the whole part of
the exact value.
-/

namespace SensorThresholds

namespace Decimal

theorem n_not_mem_decimalDigits (n : ℕ) : 'n' ∉ decimalDigits n := by
  intro member
  exact absurd (Nat.isDigit_of_mem_toDigits (by decide) (by decide) member) (by decide)

theorem n_not_mem_zeros (n : ℕ) : 'n' ∉ zeros n := by
  simp [zeros, List.mem_replicate]

theorem n_not_mem_positional (d : Decimal) : 'n' ∉ d.positional := by
  have digits := n_not_mem_decimalDigits d.digits
  unfold positional
  dsimp only
  split
  · simp [digits, n_not_mem_zeros]
  · split
    · simp [mt List.mem_of_mem_take digits, mt List.mem_of_mem_drop digits]
    · simp [digits, n_not_mem_zeros]

theorem n_not_mem_scientific (d : Decimal) : 'n' ∉ d.scientific := by
  have digits := n_not_mem_decimalDigits d.digits
  have fraction : 'n' ∉ (decimalDigits d.digits).tail := mt List.mem_of_mem_tail digits
  unfold scientific
  dsimp only
  split
  · split <;> simp [mt List.mem_of_mem_take digits, n_not_mem_decimalDigits]
  · split <;> simp [mt List.mem_of_mem_take digits, fraction, n_not_mem_decimalDigits]

theorem n_not_mem_jsonNumber (d : Decimal) : 'n' ∉ d.jsonNumber := by
  unfold jsonNumber
  dsimp only
  split
  · decide
  · split
    · split
      · simp [n_not_mem_positional]
      · exact d.n_not_mem_positional
    · exact d.n_not_mem_scientific

end Decimal

namespace Double

/-- A finite double is written as a number. -/
theorem json_ne_null {d : Double} (finite : d.isFinite = true) : d.json ≠ "null" := by
  cases d with
  | finite negative m =>
      intro same
      have member : 'n' ∈ (json (.finite negative m)).toList := by
        rw [same]
        decide
      rw [json, String.toList_ofList, signed] at member
      have number := (Decimal.shortest .even m).n_not_mem_jsonNumber
      cases negative <;> simp [number] at member
  | _ => cases finite

/-- Nothing is lost at the limits of 64 bits where the whole part is within them. -/
theorem wholeNumber_eq {d : Double} {x : ℚ} (exact : d.value? = some x)
    (least : -2 ^ 63 ≤ towardZero x) (most : towardZero x < 2 ^ 63) :
    d.wholeNumber = towardZero x := by
  obtain ⟨negative, m, rfl, -⟩ := exists_finite_of_value? exact
  have cut : truncate? (finite negative m) = some (towardZero x) := by
    rw [truncate?_eq, exact, Option.map_some]
  show max (-2 ^ 63) (min ((truncate? (finite negative m)).getD 0) (2 ^ 63 - 1)) = towardZero x
  rw [cut, Option.getD_some]
  omega

end Double

theorem isFinite_of_scale {raw v : Double} {m : ℤ} (scaled : scale raw m = some v) :
    v.isFinite = true := by
  simp only [scale, Option.ite_none_right_eq_some, Option.some.injEq] at scaled
  obtain ⟨-, finite, same⟩ := scaled
  rwa [same] at finite

/-- A whole number that is scaled exactly is in range, whatever the units. -/
theorem scale_whole_fits {raw : Double} {n m : ℤ} (exact : raw.value? = some (n : ℚ))
    (small : n.natAbs ≤ 2 ^ 53) (fits : m.natAbs < 2 ^ 31)
    (bounded : m < 0 ∨ n.natAbs * 10 ^ m.toNat ≤ 2 ^ 53 ∧ (n ≠ 0 ∨ m ≤ 308)) :
    ∃ v x, scale raw m = some v ∧ v.value? = some x ∧ towardZero x = towardZero (n * 10 ^ m) ∧
      -2 ^ 63 ≤ towardZero x ∧ towardZero x < 2 ^ 63 := by
  obtain ⟨v, scaled, cut, bound⟩ := Double.scale_whole exact small fits bounded
  rw [v.truncate?_eq, Option.map_eq_some_iff] at cut
  obtain ⟨x, value, same⟩ := cut
  exact ⟨v, x, scaled, value, same, by omega, by omega⟩

namespace Document

theorem itemChars_eq (items : List Document) :
    itemChars items = [','].intercalate (items.map chars) := by
  induction items with
  | nil => rfl
  | cons item rest ih =>
      cases rest with
      | nil => simp [itemChars]
      | cons next rest =>
          rw [List.map_cons, List.map_cons, List.intercalate_cons_cons, ← List.map_cons, ← ih]
          simp [itemChars]

theorem text_array (items : List Document) :
    text (.array items) = "[" ++ ",".intercalate (items.map text) ++ "]" := by
  apply String.toList_inj.mp
  simp [text, chars, itemChars_eq, String.toList_intercalate, Function.comp_def]

def memberText (member : String × Document) : String :=
  .ofList (jsonString member.1) ++ ":" ++ member.2.text

theorem memberChars_eq (members : List (String × Document)) :
    memberChars members = [','].intercalate (members.map fun m => (memberText m).toList) := by
  induction members with
  | nil => rfl
  | cons member rest ih =>
      cases rest with
      | nil => simp [memberChars, memberText, text]
      | cons next rest =>
          rw [List.map_cons, List.map_cons, List.intercalate_cons_cons,
            ← List.map_cons (f := fun m => (memberText m).toList), ← ih]
          simp [memberChars, memberText, text]

theorem text_object (members : List (String × Document)) :
    text (.object members) = "\x7b" ++ ",".intercalate (members.map memberText) ++ "\x7d" := by
  apply String.toList_inj.mp
  simp [text, chars, memberChars_eq, String.toList_intercalate, Function.comp_def]

end Document

namespace Report

open Document

/-- The value of a threshold in the line of JSON. -/
def jsonValue : Option Double → String
  | none => "null"
  | some v => v.json

/-- The entry of a threshold in the line of JSON. -/
def jsonEntry (entry : Threshold × Option Double) : String :=
  "\x7b\"name\":\"" ++ entry.1.key ++ "\",\"value\":" ++ jsonValue entry.2 ++ "\x7d"

theorem text_valueDocument (entry : Threshold × Option Double) :
    (valueDocument entry).text = jsonEntry entry := by
  obtain ⟨t, v⟩ := entry
  have name : memberText ("name", .string t.key) = "\"name\":\"" ++ t.key ++ "\"" := by
    cases t <;> decide +kernel
  have key : String.ofList (jsonString "value") = "\"value\"" := by decide +kernel
  have value : memberText ("value", v.elim .null fun v => .number (.float v)) =
      "\"value\":" ++ jsonValue v := by
    rw [memberText, key]
    cases v <;> simp [text, chars, jsonValue, Number.json]
  rw [valueDocument, text_object, List.map_cons, List.map_singleton, name, value,
    String.intercalate_cons_cons, String.intercalate_singleton]
  apply String.toList_inj.mp
  simp [jsonEntry]

/-- What stands in the line of JSON before the thresholds. -/
def jsonHead (r : Report) : String :=
  "\x7b" ++ memberText ("metric_property", .string r.property) ++
    "," ++ memberText ("reading_units", r.units.elim .null .string) ++
    "," ++ memberText ("unit_modifier", .number (.integer r.modifier)) ++
    "," ++ memberText ("decimal", .bool r.decimal) ++ ","

theorem json_eq (r : Report) :
    r.json = r.jsonHead ++ "\"thresholds\":[" ++ ",".intercalate (r.values.map jsonEntry) ++
      "]\x7d" := by
  have key : String.ofList (jsonString "thresholds") ++ ":" ++ "[" = "\"thresholds\":[" := by
    decide +kernel
  have closing : "]" ++ "\x7d" = "]\x7d" := by decide +kernel
  have thresholds : memberText ("thresholds", .array (r.values.map valueDocument)) =
      "\"thresholds\":[" ++ ",".intercalate (r.values.map jsonEntry) ++ "]" := by
    rw [memberText, text_array, List.map_map, ← String.append_assoc, ← String.append_assoc, key]
    exact congrArg (fun entries => "\"thresholds\":[" ++ ",".intercalate entries ++ "]")
      (List.map_congr_left fun entry _ => text_valueDocument entry)
  rw [json, document, text_object]
  simp only [List.map_cons, List.map_nil, String.intercalate_cons_cons,
    String.intercalate_singleton, thresholds, jsonHead, ← closing, String.append_assoc]

variable {property : String} {attributes : Attributes} {report : Report}

/-- A report is made only where all values are in range. -/
theorem inRange_of_ofAttributes (made : ofAttributes property attributes = .ok report)
    (t : Threshold) (x : Double) (held : attributes.raw.get t = some x) :
    InRange attributes.units attributes.modifier x := by
  rcases inRange_or_first_out attributes.units attributes.modifier attributes.raw.get with
    fits | ⟨before, u, after, y, order, earlier, value, out⟩
  · exact fits t x held
  · rw [ofAttributes_error property order earlier value out] at made
    cases made

/-- The value that a threshold has in a report. -/
def shown (attributes : Attributes) (t : Threshold) : Option Double :=
  (attributes.raw.get t).bind (scale · attributes.modifier)

theorem values_of_ofAttributes (made : ofAttributes property attributes = .ok report) :
    report.values = Threshold.all.map (fun t => (t, shown attributes t)) ∧
      report.decimal = decide (ShowsDecimals attributes.units) := by
  rw [ofAttributes_ok property (inRange_of_ofAttributes made)] at made
  obtain rfl := Except.ok.inj made
  exact ⟨rfl, rfl⟩

theorem isFinite_of_shown {t : Threshold} {v : Double} (value : shown attributes t = some v) :
    v.isFinite = true := by
  obtain ⟨raw, -, scaled⟩ := Option.bind_eq_some_iff.mp value
  exact isFinite_of_scale scaled

theorem shown_of_none {t : Threshold} (held : attributes.raw.get t = none) :
    shown attributes t = none := by
  unfold shown
  rw [held, Option.bind_none]

/-- Without decimals a value is shown only if it cuts off to a 64-bit integer. -/
theorem shown_of_some (made : ofAttributes property attributes = .ok report)
    (plain : report.decimal = false) {t : Threshold} {raw : Double}
    (held : attributes.raw.get t = some raw) :
    ∃ v x, shown attributes t = some v ∧ scale raw attributes.modifier = some v ∧
      v.value? = some x ∧ -2 ^ 63 ≤ towardZero x ∧ towardZero x < 2 ^ 63 := by
  obtain ⟨v, scaled, whole⟩ := inRange_of_ofAttributes made t raw held
  rw [(values_of_ofAttributes made).2, decide_eq_false_iff_not] at plain
  obtain ⟨x, exact, bounds⟩ := whole.resolve_left plain
  refine ⟨v, x, ?_, scaled, exact, bounds⟩
  unfold shown
  rw [held, Option.bind_some, scaled]

theorem jsonValue_eq_null_iff {v : Option Double} (finite : ∀ d, v = some d → d.isFinite = true) :
    jsonValue v = "null" ↔ v = none := by
  cases v with
  | none => simp [jsonValue]
  | some d => simp [jsonValue, Double.json_ne_null (finite d rfl)]

theorem line_whole (t : Threshold) {v : Double} {x : ℚ} (exact : v.value? = some x)
    (least : -2 ^ 63 ≤ towardZero x) (most : towardZero x < 2 ^ 63) :
    line false t (some v) = t.label ++ ":" ++ .ofList (integerText (towardZero x)) := by
  rw [← Double.wholeNumber_eq exact least most]
  rfl

/-- Every value shown is finite. Only a threshold without a value is null in the line of JSON, and
without decimals the line of text has the exact value of the scaled double, cut off toward zero. -/
theorem shows_exact_values (made : ofAttributes property attributes = .ok report) :
    (∀ entry ∈ report.values, ∀ v, entry.2 = some v → v.isFinite = true) ∧
      report.json = report.jsonHead ++ "\"thresholds\":[" ++
        ",".intercalate (Threshold.all.map fun t => jsonEntry (t, shown attributes t)) ++
        "]\x7d" ∧
      (∀ t, jsonValue (shown attributes t) = "null" ↔ attributes.raw.get t = none) ∧
      (report.decimal = false → ∃ lineOf : Threshold → String,
        report.lines = Threshold.all.map lineOf ∧ ∀ t,
          (attributes.raw.get t = none → lineOf t = t.label ++ " property is null") ∧
          ∀ raw, attributes.raw.get t = some raw → ∃ v x text,
            scale raw attributes.modifier = some v ∧ v.value? = some x ∧
            lineOf t = t.label ++ ":" ++ text ∧ IsNumeral text (towardZero x) ∧
            -2 ^ 63 ≤ towardZero x ∧ towardZero x ≤ 2 ^ 63 - 1 ∧
            (towardZero x = 0 → text = "0")) := by
  obtain ⟨values, -⟩ := values_of_ofAttributes made
  refine ⟨?_, ?_, ?_, ?_⟩
  · intro entry member v value
    rw [values] at member
    obtain ⟨t, -, rfl⟩ := List.mem_map.mp member
    exact isFinite_of_shown value
  · rw [json_eq, values, List.map_map]
    rfl
  · intro t
    rw [jsonValue_eq_null_iff fun _ => isFinite_of_shown]
    exact bind_scale_eq_none_iff (inRange_of_ofAttributes made t)
  · intro plain
    refine ⟨fun t => line false t (shown attributes t), ?_, fun t => ⟨?_, ?_⟩⟩
    · rw [lines, values, plain, List.map_map]
      rfl
    · intro held
      exact congrArg (line false t) (shown_of_none held)
    · intro raw held
      obtain ⟨v, x, value, scaled, exact, least, most⟩ := shown_of_some made plain held
      refine ⟨v, x, .ofList (integerText (towardZero x)), scaled, exact, ?_,
        isNumeral_integerText _, least, Int.le_sub_one_of_lt most, ?_⟩
      · rw [← line_whole t exact least most, ← value]
      · intro zero
        rw [zero]
        rfl

/-- A fan in thousandths: one threshold that is missing, and one that is cut off to zero. -/
def fan : Attributes :=
  ⟨-3, some "RPM", ⟨some (.ofInt 1500), none, some (.ofInt (-999)), none⟩⟩

theorem scale_fan {n : ℤ} (small : n.natAbs ≤ 2 ^ 53) :
    ∃ v x, scale (.ofInt n) fan.modifier = some v ∧ v.value? = some x ∧
      towardZero x = towardZero (n * 10 ^ (-3 : ℤ)) ∧
      -2 ^ 63 ≤ towardZero x ∧ towardZero x < 2 ^ 63 :=
  scale_whole_fits (Double.value?_ofInt small) small (by decide) (.inl (by decide))

theorem inRange_fan (t : Threshold) (x : Double) (held : fan.raw.get t = some x) :
    InRange fan.units fan.modifier x := by
  have whole : ∀ n : ℤ, n.natAbs ≤ 2 ^ 53 → InRange fan.units fan.modifier (.ofInt n) := by
    intro n small
    obtain ⟨v, x, scaled, exact, -, fits⟩ := scale_fan small
    exact ⟨v, scaled, .inr ⟨x, exact, fits⟩⟩
  cases t with
  | lowerCritical => exact Option.some.inj held ▸ whole 1500 (by decide)
  | upperCritical => exact Option.some.inj held ▸ whole (-999) (by decide)
  | _ => cases held

theorem shows_exact_values_fan :
    ∃ report, ofAttributes "/fan" fan = .ok report ∧ report.decimal = false ∧
      report.lines[1]? = some "Lower Threshold Warning property is null" ∧
      report.lines[2]? = some "Upper Threshold Critical:0" := by
  obtain ⟨report, made⟩ : ∃ report, ofAttributes "/fan" fan = .ok report :=
    ⟨_, ofAttributes_ok "/fan" inRange_fan⟩
  have plain : report.decimal = false := by
    rw [(values_of_ofAttributes made).2]
    decide
  obtain ⟨-, -, -, shows⟩ := shows_exact_values made
  obtain ⟨lineOf, lines, each⟩ := shows plain
  refine ⟨report, made, plain, ?_, ?_⟩
  · rw [lines]
    exact congrArg some ((each .lowerWarning).1 rfl)
  · obtain ⟨v, x, text, scaled, exact, line, -, -, -, zero⟩ :=
      (each .upperCritical).2 (.ofInt (-999)) rfl
    obtain ⟨v', x', scaled', exact', cut, -⟩ := scale_fan (n := -999) (by decide)
    obtain rfl : v = v' := Option.some.inj (scaled.symm.trans scaled')
    obtain rfl : x = x' := Option.some.inj (exact.symm.trans exact')
    have none : towardZero ((-999 : ℤ) * 10 ^ (-3 : ℤ)) = 0 := by decide +kernel
    rw [lines]
    refine congrArg some (line.trans ?_)
    rw [zero (cut.trans none)]
    rfl

end Report
end SensorThresholds
