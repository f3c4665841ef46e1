/-!
Levels of the diagnostic log, from the gravest to the most detailed, and how much of it is shown.
-/

namespace SensorThresholds

inductive Level where
  | error
  | warn
  | info
  | debug
  | trace
  deriving DecidableEq, Repr

namespace Level

def rank : Level → Nat
  | error => 1
  | warn => 2
  | info => 3
  | debug => 4
  | trace => 5

def name : Level → String
  | error => "ERROR"
  | warn => "WARN"
  | info => "INFO"
  | debug => "DEBUG"
  | trace => "TRACE"

/-- The number that selects the level's colour on a terminal. -/
def colour : Level → String
  | error => "31"
  | warn => "33"
  | info => "32"
  | debug => "34"
  | trace => "35"

end Level

/-- How much is shown: everything down to the finest level, or nothing if there is none. -/
structure Verbosity where
  finest : Option Level
  deriving DecidableEq, Repr

namespace Verbosity

def off : Verbosity := ⟨none⟩

def upTo (level : Level) : Verbosity := ⟨some level⟩

def rank (v : Verbosity) : Nat := (v.finest.map Level.rank).getD 0

def admits (v : Verbosity) (level : Level) : Bool := level.rank ≤ v.rank

def max (v w : Verbosity) : Verbosity := if v.rank ≤ w.rank then w else v

def ofRank? : Nat → Option Verbosity
  | 0 => some off
  | 1 => some (upTo .error)
  | 2 => some (upTo .warn)
  | 3 => some (upTo .info)
  | 4 => some (upTo .debug)
  | 5 => some (upTo .trace)
  | _ => none

end Verbosity
end SensorThresholds
