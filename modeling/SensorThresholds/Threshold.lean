/-!
The four thresholds of a numeric sensor, in the order in which they are shown.
-/

namespace SensorThresholds

inductive Threshold where
  | lowerCritical
  | lowerWarning
  | upperCritical
  | upperWarning
  deriving DecidableEq, Repr

namespace Threshold

def all : List Threshold := [lowerCritical, lowerWarning, upperCritical, upperWarning]

/-- The name of the property that holds the threshold. -/
def key : Threshold → String
  | lowerCritical => "LowerThresholdCritical"
  | lowerWarning => "LowerThresholdNonCritical"
  | upperCritical => "UpperThresholdCritical"
  | upperWarning => "UpperThresholdNonCritical"

/-- The words that introduce the threshold in a line of text. -/
def label : Threshold → String
  | lowerCritical => "Lower Threshold Critical"
  | lowerWarning => "Lower Threshold Warning"
  | upperCritical => "Upper Threshold Critical"
  | upperWarning => "Upper Threshold Warning"

end Threshold

/-- One value for each threshold. -/
structure PerThreshold (α : Type) where
  lowerCritical : α
  lowerWarning : α
  upperCritical : α
  upperWarning : α
  deriving DecidableEq, Repr

namespace PerThreshold

variable {α ε : Type}

def get (values : PerThreshold α) : Threshold → α
  | .lowerCritical => values.lowerCritical
  | .lowerWarning => values.lowerWarning
  | .upperCritical => values.upperCritical
  | .upperWarning => values.upperWarning

/-- Computes the values in order, up to the first that fails. -/
def tabulate? (f : Threshold → Except ε α) : Except ε (PerThreshold α) := do
  let lowerCritical ← f .lowerCritical
  let lowerWarning ← f .lowerWarning
  let upperCritical ← f .upperCritical
  let upperWarning ← f .upperWarning
  return ⟨lowerCritical, lowerWarning, upperCritical, upperWarning⟩

end PerThreshold
end SensorThresholds
