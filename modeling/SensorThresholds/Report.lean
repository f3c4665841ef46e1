import SensorThresholds.Attributes

/-!
The thresholds of one metric property, scaled and ready to be shown, as lines of text or as one
line of JSON.
-/

namespace SensorThresholds

/-- `raw * 10 ^ modifier`, where a negative modifier divides, so that `1100` and `-3` make exactly
`1.1`. Nothing for a result that is not finite, or an exponent that does not fit 32 bits. -/
def scale (raw : Double) (modifier : Int) : Option Double :=
  if modifier.natAbs < Nat.pow 2 31 then
    let factor := Double.tenToThe modifier.natAbs
    let scaled := if 0 ≤ modifier then raw * factor else raw / factor
    if scaled.isFinite then some scaled else none
  else none

structure Report where
  property : String
  units : Option String
  modifier : Int
  decimal : Bool
  values : List (Threshold × Option Double)
  deriving DecidableEq, Repr

namespace Report

/-- Whether a value can be shown: without decimals it must fit 64 bits once they are cut off. -/
def isShowable (decimal : Bool) (value : Double) : Bool :=
  decimal ||
    match value.truncate? with
    | some n => decide (-Int.pow 2 63 ≤ n ∧ n < Int.pow 2 63)
    | none => false

def scaleThreshold (attributes : Attributes) (threshold : Threshold) :
    Except Failure (Threshold × Option Double) :=
  match attributes.raw.get threshold with
  | none => pure (threshold, none)
  | some raw =>
    match (scale raw attributes.modifier).filter (isShowable attributes.isDecimal) with
    | some value => pure (threshold, some value)
    | none => throw (.scaleOutOfRange threshold raw attributes.modifier)

/-- Scales the thresholds in turn, up to the first that is out of range. -/
def ofAttributes (property : String) (attributes : Attributes) : Except Failure Report := do
  let values ← Threshold.all.mapM (scaleThreshold attributes)
  return ⟨property, attributes.units, attributes.modifier, attributes.isDecimal, values⟩

def line (decimal : Bool) (threshold : Threshold) : Option Double → String
  | none => s!"{threshold.label} property is null"
  | some value =>
    if decimal then s!"{threshold.label} :{value.measured}"
    else s!"{threshold.label}:{String.ofList (integerText value.wholeNumber)}"

def lines (r : Report) : List String :=
  r.values.map fun (threshold, value) => line r.decimal threshold value

def valueDocument : Threshold × Option Double → Document
  | (threshold, value) =>
    .object
      [("name", .string threshold.key),
       ("value", value.elim .null fun v => .number (.float v))]

def document (r : Report) : Document :=
  .object
    [("metric_property", .string r.property),
     ("reading_units", r.units.elim .null .string),
     ("unit_modifier", .number (.integer r.modifier)),
     ("decimal", .bool r.decimal),
     ("thresholds", .array (r.values.map valueDocument))]

def json (r : Report) : String := r.document.text

end Report
end SensorThresholds
