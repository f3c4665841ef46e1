import SensorThresholds.Sink
import SensorThresholds.Source
import SensorThresholds.TargetSet
import SensorThresholds.Text.Quoted

/-!
Looking thresholds up. An argument names one metric property or a metric report; it is resolved to
paths, and the thresholds at each path are fetched and handed to the sink in turn. The first failure
ends the lookup, and what was handed over before it stays so.
-/

namespace SensorThresholds

/-- Whether `part` stands somewhere in a text. -/
def containsText (part : List Char) : List Char → Bool
  | [] => part.isEmpty
  | c :: rest => part.isPrefixOf (c :: rest) || containsText part rest

structure Lookup (σ : Type) where
  source : Source
  /-- The path of the collection of metric reports, up to its last slash. -/
  reportBase : String
  sink : Sink σ

abbrev Action (σ : Type) := Traced Event Failure σ

namespace Lookup

variable {σ : Type}

def log (level : Level) (text : String) : Action σ Unit :=
  Traced.emit (.log (.plain .lookup level text))

def note (l : Lookup σ) (line : String) : Action σ Unit := do
  Traced.emit (.note line)
  (l.sink.note line).relabel SinkEvent.toEvent Failure.output

def report (l : Lookup σ) (r : Report) : Action σ Unit := do
  Traced.emit (.report r)
  (l.sink.report r).relabel SinkEvent.toEvent Failure.output

def fetch (l : Lookup σ) (path : String) (resource : Resource) : Action σ Document := do
  Traced.emit (.fetch path resource)
  ((l.source path resource).beside).relabel SourceEvent.toEvent id

/-- A report is named by its path if the argument contains the last part of the collection's path,
and by its id otherwise. -/
def reportPath (l : Lookup σ) (input : String) : String :=
  if containsText "MetricReports/".toList input.toList then input else l.reportBase ++ input

/-- Goes through the entries of a report from an index on, and inserts what each refers to. -/
def collect (targets : TargetSet) (index : Nat) : List Document → Action σ TargetSet
  | [] => pure targets
  | entry :: rest =>
    match entry.field "MetricProperty" with
    | .absent | .null => Traced.fail (.missingMetricProperty index)
    | .present (.string property) =>
      match targets.insert property with
      | (true, targets) => collect targets (index + 1) rest
      | (false, targets) => do
        log .debug s!"Skipping duplicate metric property {property}"
        collect targets (index + 1) rest
    | .present value => Traced.fail (.invalidMetricProperty index value)

def targetsOf (document : Document) : Action σ TargetSet :=
  if document.isObject then
    match document.field "MetricValues" with
    | .absent | .null => pure .empty
    | .present (.array entries) => collect .empty 0 entries
    | .present _ => Traced.fail .metricValuesNotList
  else Traced.fail (.notAnObject .report)

/-- The paths that an argument stands for. One with a `#` is itself a reference. -/
def resolve (l : Lookup σ) (input : String) : Action σ TargetSet :=
  if hasFragment input then pure (TargetSet.empty.insert input).2
  else do
    l.note s!"For metric report: {input}"
    let document ← l.fetch (l.reportPath input) .report
    log .debug "Successfully pulled metric report"
    targetsOf document

def shownUnits : Option String → String
  | some units => s!"Some({quoted units})"
  | none => "None"

def warnOfState (document : Document) : Action σ Unit :=
  match unknownStateWarning? document with
  | some warning => log .warn warning
  | none => pure ()

def reportOf (path : String) (document : Document) : Action σ Report :=
  if document.isObject then do
    warnOfState document
    let attributes ← Traced.ofExcept (Attributes.ofDocument document)
    log .debug
      s!"ReadingUnits: {shownUnits attributes.units}, UnitModifier: {attributes.modifier}"
    Traced.ofExcept (Report.ofAttributes path attributes)
  else Traced.fail (.notAnObject .attributes)

/-- Fetches the thresholds of one metric property and hands them to the sink. -/
def fetchAndReport (l : Lookup σ) (reference : String) : Action σ Report :=
  Traced.relabel (Event.within reference) id do
    let path := stripFragment reference
    l.note s!"Thresholds for mp:'{path}' are below:"
    let document ← l.fetch path .attributes
    let r ← reportOf path document
    l.report r
    return r

def fetchAll (l : Lookup σ) : List String → Action σ Unit
  | [] => pure ()
  | target :: rest => do
    let _ ← l.fetchAndReport target
    fetchAll l rest

def warnOfNone (input : String) (targets : TargetSet) : Action σ Unit :=
  if targets.isEmpty then log .warn s!"Metric report '{input}' lists no metric properties"
  else pure ()

def run (l : Lookup σ) (input : String) : Action σ Unit := do
  let targets ← l.resolve input
  log .debug s!"Resolved {targets.size} metric properties from '{input}'"
  warnOfNone input targets
  l.fetchAll targets.toList
  l.note s!"Successfully found the thresholds for '{input}'."

end Lookup
end SensorThresholds
