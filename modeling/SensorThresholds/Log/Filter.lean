import SensorThresholds.Environment
import SensorThresholds.Event
import SensorThresholds.Log.Directive

/-!
Which entries of the log are shown. An entry is shown where the most specific directive for it
admits its level, and also inside a scope for which a directive admits it.
-/

namespace SensorThresholds

/-- The name by which directives know a part of the program. -/
def Component.name : Component → String
  | program => "get_sensor_thresholds"
  | settings => "get_sensor_thresholds::config"
  | lookup => "get_sensor_thresholds::resolver"
  | source => "get_sensor_thresholds::redfish"
  | sink => "get_sensor_thresholds::output"

namespace LogEntry

/-- The scope in which the lookup of a metric property is logged. -/
def scopeName : String := "fetch_and_report"

/-- The names of the fields of a scope. -/
def scopeFields : List String := ["target"]

def scopeLevel : Level := .info

/-- The names of the fields of an entry. -/
def fields (entry : LogEntry) : List String :=
  "message" :: if entry.kind.isSome then ["kind"] else []

end LogEntry

namespace Directive

def covers (d : Directive) (component : Component) : Bool :=
  d.part.all fun part => part.toList.isPrefixOf component.name.toList

/-- Whether the directive is for entries wherever they are logged. -/
def isUnscoped (d : Directive) : Bool := d.scope.isNone && d.field.all (·.value.isNone)

/-- Whether the directive is for what is logged in scopes. -/
def isScoped (d : Directive) : Bool := d.scope.isSome || d.field.isSome

/-- Whether two directives differ in the verbosity only. -/
def isAlike (d e : Directive) : Bool := d.part == e.part && d.scope == e.scope && d.field == e.field

/-- Whether `d` says no less than `e` about what it is for, by the length of the name of the part
first and by the field after that. -/
def isAsSpecific (d e : Directive) : Bool :=
  let size (d : Directive) : Nat := (d.part.map (·.length + 1)).getD 0
  let fieldName (d : Directive) : String := (d.field.map (·.name)).getD ""
  size e < size d ||
    (size e == size d &&
      (e.field.isNone || (d.field.isSome && decide (fieldName e ≤ fieldName d))))

/-- Whether the directive is for a scope of the lookup, whatever its fields hold. -/
def coversScope (d : Directive) : Bool :=
  d.isScoped && d.covers .lookup && d.scope.all (· == LogEntry.scopeName) &&
    d.field.all (LogEntry.scopeFields.contains ·.name)

/-- Whether the directive is for the scope of the lookup of a metric property. -/
def admitsScope (d : Directive) (target : String) : Bool :=
  d.coversScope && d.field.all fun field => field.value.all (·.admits target)

end Directive

/-- The directives that are followed, and those that could not be read. -/
structure LogFilter where
  directives : List Directive
  rejected : List (String × DirectiveFault)
  deriving DecidableEq, Repr

namespace LogFilter

def ofVerbosity (verbosity : Verbosity) : LogFilter := ⟨[.all verbosity], []⟩

/-- Directives are separated by commas; without any, errors are shown. -/
def ofDirectives (text : String) : LogFilter :=
  let pieces := (text.splitOn ",").filter (· ≠ "")
  let accepted := pieces.filterMap fun piece => (Directive.read piece).toOption
  let rejected := pieces.filterMap fun piece =>
    match Directive.read piece with
    | .ok _ => none
    | .error fault => some (piece, fault)
  ⟨if accepted.isEmpty then [.all (.upTo .error)] else accepted, rejected⟩

/-- What is said of the directives that could not be read. -/
def complaints (f : LogFilter) : List String :=
  f.rejected.map fun (piece, fault) => s!"ignoring \x60{piece}\x60: {fault.message}"

/-- Of directives that are alike only the last one counts. -/
def lastAlike : List Directive → List Directive
  | [] => []
  | d :: rest => if rest.any d.isAlike then lastAlike rest else d :: lastAlike rest

def effective (f : LogFilter) : List Directive := lastAlike f.directives

/-- What the most specific one of some directives says. -/
def mostSpecific (directives : List Directive) : Verbosity :=
  let best := directives.foldl (fun (best : Option Directive) d =>
    match best with
    | some b => if d.isAsSpecific b then some d else some b
    | none => some d) none
  (best.map Directive.verbosity).getD .off

/-- The verbosity that no entry and no scope goes beyond. Directives on the values of fields set no
such limit. -/
def limit (f : LogFilter) : Verbosity :=
  if f.effective.any fun d => d.field.any (·.value.isSome) then .upTo .trace
  else (f.directives.map Directive.verbosity).foldl Verbosity.max .off

/-- Whether the scopes of lookups are shown. -/
def showsScope (f : LogFilter) : Bool :=
  f.limit.admits LogEntry.scopeLevel &&
    (f.effective.any Directive.coversScope ||
      (mostSpecific (f.effective.filter fun d => d.isUnscoped && d.covers .lookup)).admits
        LogEntry.scopeLevel)

/-- The verbosity inside the lookup of a metric property. -/
def inScope (f : LogFilter) (target : String) : Verbosity :=
  if f.showsScope then
    ((f.effective.filter (·.admitsScope target)).map Directive.verbosity).foldl Verbosity.max .off
  else .off

/-- The verbosity for an entry by itself. -/
def forEntry (f : LogFilter) (entry : LogEntry) : Verbosity :=
  mostSpecific (f.effective.filter fun d =>
    d.isUnscoped && d.covers entry.origin && d.field.all (entry.fields.contains ·.name))

def shows (f : LogFilter) (entry : LogEntry) : Bool :=
  f.limit.admits entry.level &&
    ((f.forEntry entry).admits entry.level ||
      entry.target.any fun target => (f.inScope target).admits entry.level)

/-- The verbosity that occurrences of the option ask for, or else the environment. -/
def ofOccurrences (env : Environment) : Nat → Verbosity
  | 0 =>
    match env.get? "THRESHOLDS_LOG_LEVEL" with
    | some "trace" => .upTo .trace
    | some "debug" => .upTo .debug
    | some "info" => .upTo .info
    | some "error" => .upTo .error
    | _ => .upTo .warn
  | 1 => .upTo .debug
  | _ => .upTo .trace

/-- Directives go before the occurrences of the option, and these before the level of the
environment. -/
def ofEnvironment (env : Environment) (occurrences : Nat) : LogFilter :=
  match env.get? "RUST_LOG" with
  | some text => ofDirectives text
  | none => ofVerbosity (ofOccurrences env occurrences)

end LogFilter
end SensorThresholds
