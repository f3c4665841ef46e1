import SensorThresholds.Level
import SensorThresholds.Text.Alphanumeric
import SensorThresholds.Text.Blank
import SensorThresholds.Text.Numeral
import SensorThresholds.Text.Pattern

/-!
Directives, which say how much of the log is shown: `part[scope{field=value}]=level`. All of it but
the part or the scope may be left out, and a level may stand alone.
-/

namespace SensorThresholds

/-- What a field must hold. Numbers and truth values are compared as such, so that no text is equal
to one; all else is a pattern. -/
structure FieldValue where
  text : String
  pattern : Option Pattern
  deriving DecidableEq, Repr

structure FieldFilter where
  name : String
  value : Option FieldValue
  deriving DecidableEq, Repr

structure Directive where
  /-- What the name of a part of the program starts with. -/
  part : Option String
  scope : Option String
  field : Option FieldFilter
  verbosity : Verbosity
  deriving DecidableEq, Repr

inductive DirectiveFault where
  | malformed
  | level
  | pattern
  deriving DecidableEq, Repr

def DirectiveFault.message : DirectiveFault → String
  | malformed => "invalid filter directive"
  | level => "error parsing level filter: expected one of \"off\", \"error\", \"warn\", " ++
      "\"info\", \"debug\", \"trace\", or a number 0-5"
  | pattern => "invalid field filter: error building NFA"

/-- Reads digits after an optional plus sign. -/
def unsigned? (digits : List Char) : Option Nat :=
  match digits with
  | [] | ['+'] => none
  | '+' :: rest => decimal? rest
  | cs => decimal? cs

/-- Reads the name or the number of a level. -/
def Verbosity.ofText? (text : String) : Option Verbosity :=
  match (unsigned? text.toList).bind Verbosity.ofRank? with
  | some verbosity => some verbosity
  | none =>
    match text.toLower with
    | "off" => some .off
    | "error" => some (.upTo .error)
    | "warn" => some (.upTo .warn)
    | "info" => some (.upTo .info)
    | "debug" => some (.upTo .debug)
    | "trace" => some (.upTo .trace)
    | _ => none

namespace FieldValue

def dropSign : List Char → List Char
  | '+' :: rest | '-' :: rest => rest
  | cs => cs

/-- Whether digits, with a point among them or not, and an exponent make up the text. -/
def isDecimal (cs : List Char) : Bool :=
  let mantissa := cs.takeWhile fun c => c ≠ 'e' && c ≠ 'E'
  let digits := mantissa.filter Char.isDigit
  let exponent := cs.dropWhile fun c => c ≠ 'e' && c ≠ 'E'
  !digits.isEmpty && (mantissa = digits || mantissa.erase '.' = digits) &&
    (exponent.isEmpty ||
      (!(dropSign (exponent.drop 1)).isEmpty && (dropSign (exponent.drop 1)).all Char.isDigit))

/-- Whether a text is a truth value or a number. -/
def isScalar (text : String) : Bool :=
  text = "true" || text = "false" ||
    let cs := dropSign text.toList
    isDecimal cs || ["inf", "infinity", "nan"].contains (String.ofList cs).toLower

def read (text : String) : Except DirectiveFault FieldValue :=
  if isScalar text then pure ⟨text, none⟩
  else
    match Pattern.read? text with
    | some pattern => pure ⟨text, some pattern⟩
    | none => throw .pattern

def admits (value : FieldValue) (text : String) : Bool := value.pattern.any (·.matchesEnd text)

end FieldValue

/-- Reads `name` or `name=value`; a second `=` ends the value. -/
def FieldFilter.read (cs : List Char) : Except DirectiveFault FieldFilter :=
  if cs.isEmpty then throw .malformed
  else
    let name := String.ofList (cs.takeWhile (· ≠ '='))
    match cs.dropWhile (· ≠ '=') with
    | [] => pure ⟨name, none⟩
    | _ :: rest => do
      return ⟨name, some (← FieldValue.read (.ofList (rest.takeWhile (· ≠ '='))))⟩

namespace Directive

def all (verbosity : Verbosity) : Directive := ⟨none, none, none, verbosity⟩

/-- The place that has been reached in a directive, with what has been taken of it there. -/
inductive Place where
  | start
  | name (taken : List Char)
  | scope (taken : List Char)
  | field (taken : List Char)
  | fieldEnd
  | scopeEnd
  | level (taken : List Char)
  deriving DecidableEq, Repr

/-- What a directive may start with, apart from a bracket. -/
def startsName (c : Char) : Bool := c = '-' || c = ':' || c = '_' || alphanumeric.contains c

/-- Passes the character `c`, which decides what comes next, and takes the character `taken`. -/
def step (d : Directive) (place : Place) (c taken : Char) :
    Except DirectiveFault (Directive × Place) :=
  match place with
  | .start =>
    if c = '[' then pure (d, .scope [])
    else if startsName c then pure (d, .name [taken])
    else throw .malformed
  | .name cs =>
    if c = '=' then pure ({ d with part := some (.ofList cs) }, .level [])
    else if c = '[' then pure ({ d with part := some (.ofList cs) }, .scope [])
    else pure (d, .name (cs ++ [taken]))
  | .scope cs =>
    if c = ']' then pure ({ d with scope := some (.ofList cs) }, .scopeEnd)
    else if c = '\x7b' then
      pure ({ d with scope := if cs.isEmpty then none else some (.ofList cs) }, .field [])
    else pure (d, .scope (cs ++ [taken]))
  | .field cs =>
    if c = '\x7d' then do return ({ d with field := some (← FieldFilter.read cs) }, .fieldEnd)
    else pure (d, .field (cs ++ [taken]))
  | .fieldEnd => if c = ']' then pure (d, .scopeEnd) else throw .malformed
  | .scopeEnd => if c = '=' then pure (d, .level []) else throw .malformed
  | .level cs => pure (d, .level (cs ++ [taken]))

def readLevel (cs : List Char) : Except DirectiveFault Verbosity :=
  if cs.isEmpty then pure (.upTo .trace)
  else
    match Verbosity.ofText? (.ofList cs) with
    | some verbosity => pure verbosity
    | none => throw .level

/-- Ends a directive, whose last part goes on to the end of the text. -/
def finish (d : Directive) (place : Place) (tail : List Char) : Except DirectiveFault Directive :=
  match place with
  | .name cs =>
    let text := String.ofList (cs ++ tail)
    match Verbosity.ofText? text with
    | some verbosity => pure { d with verbosity }
    | none => pure { d with part := some text }
  | .level cs => do return { d with verbosity := ← readLevel (cs ++ tail) }
  | .scopeEnd => pure d
  | .start | .scope _ | .field _ | .fieldEnd => throw .malformed

def readFrom (d : Directive) (place : Place) :
    List Char → List Char → Except DirectiveFault Directive
  | c :: rest, taken :: text => do
    let (d, place) ← d.step place c taken
    readFrom d place rest text
  | _, tail => d.finish place tail

/-- Reads a directive. Where its parts end is decided without the blanks around it, but the parts
are taken from the text with them: blanks at its start shift all of them. -/
def read (text : String) : Except DirectiveFault Directive :=
  let cs := text.toList
  readFrom (.all (.upTo .trace)) .start (trimEnd (trimStart cs)) cs

end Directive
end SensorThresholds
