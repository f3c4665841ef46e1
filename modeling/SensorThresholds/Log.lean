import SensorThresholds.Log.Filter
import SensorThresholds.Text.Quoted

/-!
How entries of the diagnostic log are written. Entries that belong to the lookup of a metric
property name it where the log is detailed enough.
-/

namespace SensorThresholds

def FailureKind.name : FailureKind → String
  | transport => "Transport"
  | format => "Format"
  | output => "Output"

structure LogStyle where
  filter : LogFilter
  coloured : Bool
  deriving DecidableEq, Repr

namespace LogStyle

/-- Warnings and errors, without colours. -/
def plain : LogStyle := ⟨.ofVerbosity (.upTo .warn), false⟩

/-- Colours are forced on or off, and otherwise depend on whether the log goes to a terminal. -/
def ofEnvironment (env : Environment) (occurrences : Nat) (terminal : Bool) : LogStyle :=
  ⟨.ofEnvironment env occurrences,
    match env.get? "FORCE_COLOR" with
    | some "1" | some "true" | some "yes" => true
    | some "0" | some "false" | some "no" => false
    | _ => terminal⟩

def paint (s : LogStyle) (code text : String) : String :=
  if s.coloured then s!"\x1b[{code}m{text}\x1b[0m" else text

def pair (s : LogStyle) (name value : String) : String :=
  s.paint "3" name ++ s.paint "2" "=" ++ value

/-- Controls that could steer a terminal are escaped in messages. -/
def safeChar (c : Char) : List Char :=
  if c = '\x1b' then "\\x1b".toList
  else if c = '\x07' then "\\x07".toList
  else if c = '\x08' then "\\x08".toList
  else if c = '\x0c' then "\\x0c".toList
  else if c = '\x7f' then "\\x7f".toList
  else if '\u0080' ≤ c ∧ c ≤ '\u009f' then
    "\\u\x7b".toList ++ Nat.toDigits 16 c.toNat ++ ['\x7d']
  else [c]

def levelName (s : LogStyle) (level : Level) : String :=
  if s.coloured then
    s.paint level.colour (if level.name.length < 5 then " " ++ level.name else level.name)
  else level.name

/-- An entry as it is written, without the time in front of it. -/
def line (s : LogStyle) (entry : LogEntry) : String :=
  let target := if s.filter.showsScope then entry.target else none
  let scope := match target with
    | some _ => s.paint "1" LogEntry.scopeName ++ ": "
    | none => ""
  let kind := match entry.kind with
    | some kind => " " ++ s.pair "kind" kind.name
    | none => ""
  let place := match target with
    | some path =>
      let field := s.pair "target" (quoted path)
      " " ++ if s.coloured then s!"\x1b[2m{field}\x1b[0m" else field
    | none => ""
  s!"{s.levelName entry.level} {scope}{String.ofList (entry.text.toList.flatMap safeChar)}" ++
    kind ++ place

def line? (s : LogStyle) (entry : LogEntry) : Option String :=
  if s.filter.shows entry then some (s.line entry) else none

end LogStyle
end SensorThresholds
