import SensorThresholds.Failure

/-!
The attributes of one metric property that matter for its thresholds, read from a document. The
first fault in a fixed order is the one reported: the unit modifier, then the thresholds in turn.
-/

namespace SensorThresholds

structure Attributes where
  modifier : Int
  units : Option String
  raw : PerThreshold (Option Double)
  deriving DecidableEq, Repr

/-- Units whose thresholds are shown with decimals. -/
def decimalUnits : List String := ["Amps", "Watts", "Volts"]

namespace Attributes

/-- A unit modifier is a number that is exactly a 32-bit integer, however it is written. -/
def modifier? : Document → Option Int
  | .number n =>
    match n.toInt? with
    | some m => if -Int.pow 2 31 ≤ m ∧ m < Int.pow 2 31 then some m else none
    | none => none
  | _ => none

def readModifier (document : Document) : Except Failure Int :=
  match document.field "UnitModifier" with
  | .absent | .null => throw .noUnitModifier
  | .present value =>
    match modifier? value with
    | some m => pure m
    | none => throw (.invalidUnitModifier value)

/-- A threshold must be there; null says that the sensor has none. -/
def readThreshold (document : Document) (threshold : Threshold) :
    Except Failure (Option Double) :=
  match document.field threshold.key with
  | .absent => throw (.missingThreshold threshold)
  | .null => pure none
  | .present (.number n) => pure (some n.toDouble)
  | .present value => throw (.nonNumericThreshold threshold value)

def ofDocument (document : Document) : Except Failure Attributes := do
  let modifier ← readModifier document
  let raw ← PerThreshold.tabulate? (readThreshold document)
  return ⟨modifier, (document.get? "ReadingUnits").bind Json.text?, raw⟩

def isDecimal (a : Attributes) : Bool :=
  match a.units with
  | some units => decimalUnits.contains units
  | none => false

end Attributes

/-- What to say of a sensor that does not know its own state. -/
def unknownStateWarning? (document : Document) : Option String :=
  if (document.get? "CurrentState").bind Json.text? = some "Unknown" then
    let type := ((document.get? "@odata.type").bind Json.text?).getD "<no @odata.type>"
    some s!"CurrentState of {type} is Unknown, thresholds may not be meaningful"
  else none

end SensorThresholds
