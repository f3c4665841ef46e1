import SensorThresholds.Proofs.ExactValue
import SensorThresholds.Proofs.InOrder
import SensorThresholds.Proofs.Script

/-!
What comes of an attributes document: a report, or the first thing wrong with it in a fixed order.
The unit modifier comes first, then each threshold as it is read, and only when all of them can be
read each threshold as it is scaled.
-/

namespace SensorThresholds

/-- The unit modifier of a document is a number that is exactly a 32-bit integer. -/
def HasModifier (document : Document) (m : ℤ) : Prop :=
  ∃ n : Number, document.get? "UnitModifier" = some (.number n) ∧ n.value? = some (m : ℚ) ∧
    -2 ^ 31 ≤ m ∧ m < 2 ^ 31

def HasUnits (document : Document) (units : Option String) : Prop :=
  ∀ text, units = some text ↔ document.get? "ReadingUnits" = some (.string text)

def ShowsDecimals (units : Option String) : Prop :=
  units = some "Amps" ∨ units = some "Watts" ∨ units = some "Volts"

instance : DecidablePred ShowsDecimals := fun _ => inferInstanceAs (Decidable (_ ∨ _ ∨ _))

/-- The value of a threshold, if it is a number or null. -/
def rawOf? (document : Document) (t : Threshold) : Option (Option Double) :=
  match document.get? t.key with
  | some .null => some none
  | some (.number n) => some (some n.toDouble)
  | _ => none

/-- A double that cuts off to a 64-bit integer. -/
def Double.FitsWhole (d : Double) : Prop :=
  ∃ x, d.value? = some x ∧ -2 ^ 63 ≤ towardZero x ∧ towardZero x < 2 ^ 63

/-- A value that can be scaled, and shown in the units. -/
def InRange (units : Option String) (m : ℤ) (raw : Double) : Prop :=
  ∃ v, scale raw m = some v ∧ (ShowsDecimals units ∨ v.FitsWhole)

/-- What comes of the attributes document of a property. -/
inductive Yields (property : String) (document : Document) : Except Failure Report → Prop where
  | notAnObject (shape : document.isObject = false) :
      Yields property document (.error (.notAnObject .attributes))
  | noModifier (shape : document.isObject = true)
      (modifier : document.get? "UnitModifier" = none ∨
        document.get? "UnitModifier" = some .null) :
      Yields property document (.error .noUnitModifier)
  | invalidModifier {value : Document} (modifier : document.get? "UnitModifier" = some value)
      (present : value ≠ .null) (other : ∀ m, ¬ HasModifier document m) :
      Yields property document (.error (.invalidUnitModifier value))
  | missing {m : ℤ} {t : Threshold} {before after : List Threshold}
      (modifier : HasModifier document m) (order : Threshold.all = before ++ t :: after)
      (earlier : ∀ u ∈ before, (rawOf? document u).isSome)
      (absent : document.get? t.key = none) :
      Yields property document (.error (.missingThreshold t))
  | nonNumeric {m : ℤ} {t : Threshold} {before after : List Threshold} {value : Document}
      (modifier : HasModifier document m) (order : Threshold.all = before ++ t :: after)
      (earlier : ∀ u ∈ before, (rawOf? document u).isSome)
      (found : document.get? t.key = some value)
      (present : value ≠ .null) (other : ∀ n, value ≠ .number n) :
      Yields property document (.error (.nonNumericThreshold t value))
  | outOfRange {m : ℤ} {units : Option String} {raw : Threshold → Option Double} {t : Threshold}
      {before after : List Threshold} {r : Double}
      (modifier : HasModifier document m) (measured : HasUnits document units)
      (read : ∀ u, rawOf? document u = some (raw u))
      (order : Threshold.all = before ++ t :: after)
      (earlier : ∀ u ∈ before, ∀ x, raw u = some x → InRange units m x)
      (value : raw t = some r) (out : ¬ InRange units m r) :
      Yields property document (.error (.scaleOutOfRange t r m))
  | report {m : ℤ} {units : Option String} {raw : Threshold → Option Double}
      (modifier : HasModifier document m) (measured : HasUnits document units)
      (read : ∀ t, rawOf? document t = some (raw t))
      (fits : ∀ t x, raw t = some x → InRange units m x) :
      Yields property document (.ok
        { property, units, modifier := m, decimal := decide (ShowsDecimals units)
          values := Threshold.all.map fun t => (t, (raw t).bind (scale · m)) })

variable {property : String} {document : Document} {m : ℤ} {units : Option String}
  {raw : Threshold → Option Double} {before after : List Threshold} {t : Threshold}
  {failure : Failure}

theorem hasUnits_unique {other : Option String} (first : HasUnits document units)
    (second : HasUnits document other) : units = other :=
  Option.ext fun text => (first text).trans (second text).symm

theorem bind_text?_eq_some_iff {value : Option Document} {text : String} :
    value.bind Json.text? = some text ↔ value = some (.string text) := by
  cases value with
  | none => simp
  | some held => cases held <;> simp [Json.text?]

theorem hasUnits_text (document : Document) :
    HasUnits document ((document.get? "ReadingUnits").bind Json.text?) :=
  fun _ => bind_text?_eq_some_iff

theorem HasModifier.isObject (modifier : HasModifier document m) : document.isObject = true := by
  obtain ⟨n, held, -⟩ := modifier
  exact Json.isObject_of_get? held

theorem rawOf?_eq_some_none_iff :
    rawOf? document t = some none ↔ document.get? t.key = some .null := by
  unfold rawOf?
  split
  · next held => simp [held]
  · next n held => simp [held]
  · next present _ =>
      constructor
      · intro read
        cases read
      · intro held
        exact (present held).elim

/-- Only what is null is shown as null. -/
theorem bind_scale_eq_none_iff {value : Option Double}
    (fits : ∀ x, value = some x → InRange units m x) :
    value.bind (scale · m) = none ↔ value = none := by
  cases value with
  | none => simp
  | some x =>
      obtain ⟨v, scaled, -⟩ := fits x rfl
      simp [scaled]

/-- Either all values are in range, or there is a first one that is not. -/
theorem inRange_or_first_out (units : Option String) (m : ℤ) (raw : Threshold → Option Double) :
    (∀ t x, raw t = some x → InRange units m x) ∨
      ∃ before t after x, Threshold.all = before ++ t :: after ∧
        (∀ u ∈ before, ∀ y, raw u = some y → InRange units m y) ∧
        raw t = some x ∧ ¬ InRange units m x := by
  rcases forall_or_first_not (fun t => ∀ x, raw t = some x → InRange units m x) Threshold.all with
    fits | ⟨before, t, after, order, earlier, fault⟩
  · exact .inl fun t => fits t t.mem_all
  · simp only [not_forall] at fault
    obtain ⟨x, value, out⟩ := fault
    exact .inr ⟨before, t, after, x, order, earlier, value, out⟩

namespace Attributes

theorem modifier?_eq_some_iff (value : Document) (m : ℤ) :
    modifier? value = some m ↔
      ∃ n : Number, value = .number n ∧ n.value? = some (m : ℚ) ∧ -2 ^ 31 ≤ m ∧ m < 2 ^ 31 := by
  cases value with
  | number n =>
      constructor
      · intro found
        simp only [modifier?] at found
        split at found
        · next k integral =>
            split at found
            · next bounds =>
                obtain rfl := Option.some.inj found
                exact ⟨n, rfl, (n.toInt?_eq_some_iff k).mp integral, bounds⟩
            · cases found
        · cases found
      · rintro ⟨k, same, exact, bounds⟩
        obtain rfl := Json.number.inj same
        simp only [modifier?, (n.toInt?_eq_some_iff m).mpr exact]
        exact if_pos bounds
  | _ => simp [modifier?]

theorem hasModifier_iff {value : Document}
    (held : document.get? "UnitModifier" = some value) (m : ℤ) :
    HasModifier document m ↔ modifier? value = some m := by
  rw [modifier?_eq_some_iff, HasModifier, held]
  simp only [Option.some.injEq]

theorem hasModifier_unique {k : ℤ} (first : HasModifier document m)
    (second : HasModifier document k) : m = k := by
  obtain ⟨n, held, -⟩ := id first
  rw [hasModifier_iff held] at first second
  exact Option.some.inj (first.symm.trans second)

theorem readModifier_ok (modifier : HasModifier document m) :
    readModifier document = .ok m := by
  obtain ⟨n, held, -⟩ := id modifier
  have found := (hasModifier_iff held m).mp modifier
  simp only [readModifier, Json.field, held, found]
  rfl

theorem readThreshold_ok {value : Option Double} (read : rawOf? document t = some value) :
    readThreshold document t = .ok value := by
  unfold rawOf? at read
  split at read
  · next held =>
      obtain rfl := Option.some.inj read
      simp only [readThreshold, Json.field, held]
      rfl
  · next n held =>
      obtain rfl := Option.some.inj read
      simp only [readThreshold, Json.field, held]
      rfl
  · cases read

theorem exists_readThreshold_ok {thresholds : List Threshold}
    (read : ∀ t ∈ thresholds, (rawOf? document t).isSome) :
    ∀ t ∈ thresholds, ∃ raw, readThreshold document t = .ok raw := by
  intro t member
  obtain ⟨raw, held⟩ := Option.isSome_iff_exists.mp (read t member)
  exact ⟨raw, readThreshold_ok held⟩

theorem ofDocument_ok (modifier : HasModifier document m) (measured : HasUnits document units)
    (read : ∀ t, rawOf? document t = some (raw t)) :
    ofDocument document = .ok ⟨m, units, .ofFn raw⟩ := by
  rw [ofDocument, readModifier_ok modifier,
    PerThreshold.tabulate?_ok fun t => readThreshold_ok (read t),
    hasUnits_unique (hasUnits_text document) measured]
  rfl

theorem ofDocument_error (modifier : HasModifier document m)
    (order : Threshold.all = before ++ t :: after)
    (earlier : ∀ u ∈ before, (rawOf? document u).isSome)
    (fault : readThreshold document t = .error failure) :
    ofDocument document = .error failure := by
  rw [ofDocument, readModifier_ok modifier,
    PerThreshold.tabulate?_error order (exists_readThreshold_ok earlier) fault]
  rfl

theorem isDecimal_eq (attributes : Attributes) :
    attributes.isDecimal = decide (ShowsDecimals attributes.units) := by
  rw [isDecimal, Bool.eq_iff_iff, decide_eq_true_iff, ShowsDecimals]
  cases attributes.units with
  | none => simp
  | some text => simp [decimalUnits]

end Attributes

namespace Report

theorem isShowable_iff (decimal : Bool) (v : Double) :
    isShowable decimal v = true ↔ decimal = true ∨ v.FitsWhole := by
  rw [isShowable, Bool.or_eq_true, Double.FitsWhole, v.truncate?_eq]
  cases v.value? with
  | none => simp
  | some x =>
      simp only [Option.map_some, decide_eq_true_eq, Option.some.injEq, exists_eq_left']
      exact Iff.rfl

variable {attributes : Attributes} {x : Double} {result : Except Failure Report}

/-- The value that a threshold is shown with: none, or one that is in range. -/
theorem scaleThreshold_ok
    (fits : ∀ x, attributes.raw.get t = some x → InRange attributes.units attributes.modifier x) :
    scaleThreshold attributes t =
      .ok (t, (attributes.raw.get t).bind (scale · attributes.modifier)) := by
  unfold scaleThreshold
  cases held : attributes.raw.get t with
  | none => rfl
  | some x =>
      obtain ⟨v, scaled, shown⟩ := fits x held
      have showable : isShowable attributes.isDecimal v = true := by
        rw [isShowable_iff, attributes.isDecimal_eq, decide_eq_true_iff]
        exact shown
      simp only [scaled, Option.filter_some, showable, if_true, Option.bind_some]
      rfl

theorem scaleThreshold_error (held : attributes.raw.get t = some x)
    (out : ¬ InRange attributes.units attributes.modifier x) :
    scaleThreshold attributes t = .error (.scaleOutOfRange t x attributes.modifier) := by
  unfold scaleThreshold
  have none : (scale x attributes.modifier).filter (isShowable attributes.isDecimal) = none := by
    rw [Option.filter_eq_none_iff]
    intro v scaled showable
    rw [isShowable_iff, attributes.isDecimal_eq, decide_eq_true_iff] at showable
    exact out ⟨v, scaled, showable⟩
  simp only [held, none]
  rfl

theorem ofAttributes_ok (property : String)
    (fits : ∀ t x, attributes.raw.get t = some x →
      InRange attributes.units attributes.modifier x) :
    ofAttributes property attributes = .ok
      { property, units := attributes.units, modifier := attributes.modifier
        decimal := decide (ShowsDecimals attributes.units)
        values := Threshold.all.map fun t =>
          (t, (attributes.raw.get t).bind (scale · attributes.modifier)) } := by
  rw [ofAttributes, mapM_ok fun t _ => scaleThreshold_ok (fits t), attributes.isDecimal_eq]
  rfl

theorem ofAttributes_error (property : String)
    (order : Threshold.all = before ++ t :: after)
    (earlier : ∀ u ∈ before, ∀ x, attributes.raw.get u = some x →
      InRange attributes.units attributes.modifier x)
    (held : attributes.raw.get t = some x)
    (out : ¬ InRange attributes.units attributes.modifier x) :
    ofAttributes property attributes =
      .error (.scaleOutOfRange t x attributes.modifier) := by
  rw [ofAttributes, order, mapM_error (fun u member => ⟨_, scaleThreshold_ok (earlier u member)⟩)
    (scaleThreshold_error held out)]
  rfl

theorem ofDocument_object (property : String) (shape : document.isObject = true) :
    ofDocument property document =
      (do let attributes ← Attributes.ofDocument document; ofAttributes property attributes) :=
  if_pos shape

theorem ofDocument_error (property : String) (shape : document.isObject = true)
    (fault : Attributes.ofDocument document = .error failure) :
    ofDocument property document = .error failure := by
  rw [ofDocument_object property shape, fault]
  rfl

theorem ofDocument_ok (property : String) (modifier : HasModifier document m)
    (measured : HasUnits document units) (read : ∀ t, rawOf? document t = some (raw t)) :
    ofDocument property document = ofAttributes property ⟨m, units, .ofFn raw⟩ := by
  rw [ofDocument_object property modifier.isObject,
    Attributes.ofDocument_ok modifier measured read]
  rfl

theorem ofDocument_of_yields (yields : Yields property document result) :
    ofDocument property document = result := by
  cases yields with
  | notAnObject shape => exact if_neg (by simp [shape])
  | noModifier shape modifier =>
      apply ofDocument_error property shape
      rcases modifier with none | null
      · simp only [Attributes.ofDocument, Attributes.readModifier, Json.field, none]
        rfl
      · simp only [Attributes.ofDocument, Attributes.readModifier, Json.field, null]
        rfl
  | @invalidModifier value held present other =>
      apply ofDocument_error property (Json.isObject_of_get? held)
      have none : Attributes.modifier? value = none := by
        rw [Option.eq_none_iff_forall_ne_some]
        intro m found
        exact other m ((Attributes.hasModifier_iff held m).mpr found)
      have field : document.field "UnitModifier" = .present value := by
        rw [Json.field, held]
        cases value with
        | null => exact absurd rfl present
        | _ => rfl
      simp only [Attributes.ofDocument, Attributes.readModifier, field, none]
      rfl
  | missing modifier order earlier absent =>
      apply ofDocument_error property modifier.isObject
      apply Attributes.ofDocument_error modifier order earlier
      simp only [Attributes.readThreshold, Json.field, absent]
      rfl
  | @nonNumeric m t _ _ value modifier order earlier found present other =>
      apply ofDocument_error property modifier.isObject
      apply Attributes.ofDocument_error modifier order earlier
      simp only [Attributes.readThreshold, Json.field, found]
      cases value with
      | null => exact absurd rfl present
      | number n => exact absurd rfl (other n)
      | _ => rfl
  | outOfRange modifier measured read order earlier value out =>
      rw [ofDocument_ok property modifier measured read]
      exact ofAttributes_error property order
        (by simpa only [PerThreshold.get_ofFn] using earlier)
        (by rw [PerThreshold.get_ofFn, value]) out
  | report modifier measured read fits =>
      rw [ofDocument_ok property modifier measured read,
        ofAttributes_ok property (by simpa only [PerThreshold.get_ofFn] using fits)]
      simp only [PerThreshold.get_ofFn]

/-- A document whose thresholds can all be read yields a report, or the first of them that is out of
range. -/
theorem exists_yields_of_read (modifier : HasModifier document m)
    (measured : HasUnits document units) (read : ∀ t, rawOf? document t = some (raw t)) :
    ∃ result, Yields property document result := by
  rcases inRange_or_first_out units m raw with
    fits | ⟨before, t, after, x, order, earlier, value, out⟩
  · exact ⟨_, .report modifier measured read fits⟩
  · exact ⟨_, .outOfRange modifier measured read order earlier value out⟩

theorem exists_yields_of_modifier (modifier : HasModifier document m) :
    ∃ result, Yields property document result := by
  rcases forall_or_first_not (fun t => (rawOf? document t).isSome = true) Threshold.all with
    all | ⟨before, t, after, order, earlier, fault⟩
  · choose raw read using fun t => Option.isSome_iff_exists.mp (all t t.mem_all)
    exact exists_yields_of_read modifier (hasUnits_text document) read
  · cases held : document.get? t.key with
    | none => exact ⟨_, .missing modifier order earlier held⟩
    | some value =>
        cases value with
        | null => simp [rawOf?, held] at fault
        | number n => simp [rawOf?, held] at fault
        | _ => exact ⟨_, .nonNumeric modifier order earlier held (by simp) (by simp)⟩

theorem exists_yields (property : String) (document : Document) :
    ∃ result, Yields property document result := by
  cases shape : document.isObject with
  | false => exact ⟨_, .notAnObject shape⟩
  | true =>
      cases held : document.get? "UnitModifier" with
      | none => exact ⟨_, .noModifier shape (.inl held)⟩
      | some value =>
          by_cases null : value = .null
          · exact ⟨_, .noModifier shape (.inr (by rw [held, null]))⟩
          · by_cases integral : ∃ m, HasModifier document m
            · obtain ⟨m, modifier⟩ := integral
              exact exists_yields_of_modifier modifier
            · exact ⟨_, .invalidModifier held null (not_exists.mp integral)⟩

theorem yields_iff : Yields property document result ↔ ofDocument property document = result := by
  constructor
  · exact ofDocument_of_yields
  · rintro rfl
    obtain ⟨result, yields⟩ := exists_yields property document
    exact (ofDocument_of_yields yields).symm ▸ yields

/-- What comes of an attributes document is its first problem in the fixed order, or a report where
there is none. A report names the four thresholds by their keys, and shows as null exactly those
that are null in the document. -/
theorem ofDocument_eq_iff (property : String) (document : Document) :
    (∀ result, Yields property document result ↔ ofDocument property document = result) ∧
      ∀ report, ofDocument property document = .ok report →
        report.values.map (fun entry => entry.1.key) =
          ["LowerThresholdCritical", "LowerThresholdNonCritical",
            "UpperThresholdCritical", "UpperThresholdNonCritical"] ∧
        ∀ entry ∈ report.values, entry.2 = none ↔ document.get? entry.1.key = some .null := by
  refine ⟨fun _ => yields_iff, ?_⟩
  intro report made
  cases yields_iff.mpr made with
  | report modifier measured read fits =>
      refine ⟨rfl, ?_⟩
      intro entry member
      obtain ⟨t, -, rfl⟩ := List.mem_map.mp member
      rw [bind_scale_eq_none_iff (fits t), ← rawOf?_eq_some_none_iff, read t, Option.some.injEq]

/-- A report is named by its path, and has a line for each threshold. -/
theorem shape_of_ofDocument {path : String} {report : Report}
    (made : ofDocument path document = .ok report) :
    report.property = path ∧ report.lines.length = 4 := by
  cases yields_iff.mpr made
  exact ⟨rfl, rfl⟩

end Report

theorem Lookup.shape_of_answer {σ : Type} (l : Lookup σ) {path : String} {report : Report}
    (answered : l.answer path = .ok report) :
    report.property = path ∧ report.lines.length = 4 := by
  cases replied : l.reply path .attributes with
  | error failure =>
      rw [l.answer_of_error path replied] at answered
      cases answered
  | ok document =>
      rw [l.answer_of_ok path replied] at answered
      exact Report.shape_of_ofDocument answered

end SensorThresholds
