import SensorThresholds.Json.Text
import SensorThresholds.Threshold

/-!
What can end a lookup: its cause, the kind of cause, and the words that report it.
-/

namespace SensorThresholds

/-- The two kinds of documents that are asked for. -/
inductive Resource where
  | report
  | attributes
  deriving DecidableEq, Repr

def Resource.name : Resource → String
  | report => "report"
  | attributes => "attributes"

/-- Why an output takes no more. -/
inductive OutputFault where
  | noSpace
  | deviceFull
  | flushFailed
  deriving DecidableEq, Repr

def OutputFault.message : OutputFault → String
  | noSpace => "no space left on device"
  | deviceFull => "No space left on device (os error 28)"
  | flushFailed => "flush failed"

inductive Failure where
  /-- An answer whose status is not a success. -/
  | status (resource : Resource) (url : String) (code : Nat)
  /-- No answer, or one that breaks off. -/
  | request (resource : Resource) (url : String)
  | notJson (resource : Resource) (url : String)
  | notAnObject (resource : Resource)
  | metricValuesNotList
  | missingMetricProperty (index : Nat)
  | invalidMetricProperty (index : Nat) (value : Document)
  | noUnitModifier
  | invalidUnitModifier (value : Document)
  | missingThreshold (threshold : Threshold)
  | nonNumericThreshold (threshold : Threshold) (value : Document)
  | scaleOutOfRange (threshold : Threshold) (raw : Double) (modifier : Int)
  | output (fault : OutputFault)

/-- Whether the peer could not be reached, its document is not as expected, or the results could not
be written. -/
inductive FailureKind where
  | transport
  | format
  | output
  deriving DecidableEq, Repr

namespace Failure

def kind : Failure → FailureKind
  | status .. | request .. => .transport
  | output _ => .output
  | _ => .format

def message : Failure → String
  | status resource url code =>
    s!"FAIL, status code for reading {resource.name} is not 200, code is: {code} ({url})"
  | request resource url => s!"FAIL, request for {resource.name} at {url} failed"
  | notJson resource url => s!"FAIL, {resource.name} at {url} is not valid JSON"
  | notAnObject resource => s!"FAIL, {resource.name} document is not a JSON object"
  | metricValuesNotList => "FAIL, MetricValues in metric report is not a list"
  | missingMetricProperty index =>
    s!"FAIL, MetricValues entry {index} has no MetricProperty. " ++
      "The iDRAC firmware version is not compatible with this tool"
  | invalidMetricProperty index value =>
    s!"FAIL, MetricProperty of MetricValues entry {index} is not a string: {value.text}"
  | noUnitModifier => "FAIL,No Unit Modifier"
  | invalidUnitModifier value => s!"FAIL, UnitModifier is not an integer: {value.text}"
  | missingThreshold threshold => s!"FAIL,No {threshold.key} property"
  | nonNumericThreshold threshold value => s!"FAIL, {threshold.key} is not numeric: {value.text}"
  | scaleOutOfRange threshold raw modifier =>
    s!"FAIL, {threshold.key} value {raw.plain} scaled by 10^{modifier} is out of range"
  | output fault => s!"FAIL, could not write output: {fault.message}"

end Failure
end SensorThresholds
