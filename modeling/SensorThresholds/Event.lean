import SensorThresholds.Level
import SensorThresholds.Report

/-!
What a lookup does that can be seen from outside, in the order in which it does it.
-/

namespace SensorThresholds

/-- The parts of the program that keep the log. -/
inductive Component where
  | program
  | settings
  | lookup
  | source
  | sink
  deriving DecidableEq, Repr

/-- A line of the diagnostic log, and the part of the program that it comes from. It may name the
metric property that was being looked up, and an error names its kind. -/
structure LogEntry where
  level : Level
  origin : Component
  text : String
  target : Option String
  kind : Option FailureKind
  deriving DecidableEq, Repr

def LogEntry.plain (origin : Component) (level : Level) (text : String) : LogEntry :=
  ⟨level, origin, text, none, none⟩

/-- A request as the peer sees it. -/
structure Request where
  method : String
  target : String
  authorization : String
  contentType : String
  deriving DecidableEq, Repr

inductive Event where
  /-- A line is handed to the sink. -/
  | note (line : String)
  /-- A report is handed to the sink. -/
  | report (report : Report)
  /-- The source is asked for a document. -/
  | fetch (path : String) (resource : Resource)
  /-- Bytes reach the output. -/
  | write (bytes : List UInt8)
  /-- The output is flushed. -/
  | flush
  /-- A request reaches its peer. -/
  | request (request : Request)
  | log (entry : LogEntry)
  deriving DecidableEq, Repr

namespace Event

/-- Names the metric property in whatever is logged while it is looked up. -/
def within (target : String) : Event → Event
  | log entry => log { entry with target := some target }
  | event => event

end Event
end SensorThresholds
