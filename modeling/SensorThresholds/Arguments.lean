import SensorThresholds.Arguments.Command
import SensorThresholds.Text.Controls

/-!
The command line: what is written on it, what it asks for, and what is wrong with it. Taking it
apart is left to a library, which gets the command and gives what was found.
-/

namespace SensorThresholds

inductive OutputFormat where
  | text
  | json
  deriving DecidableEq, Repr

structure Arguments where
  host : String
  user : String
  password : String
  property : String
  format : OutputFormat
  verbosity : Nat
  deriving DecidableEq, Repr

inductive UsageFault where
  | missing (names : List String)
  | unknown (argument : String)
  | invalidFormat (value : String)
  | missingFormat
  | repeatedFormat
  | unexpectedValue (value : String) (option : String)
  deriving DecidableEq, Repr

/-- Why a command line looks nothing up. -/
inductive Stop where
  | help (long : Bool)
  | version
  | refused (fault : UsageFault)
  deriving DecidableEq, Repr

/-- What a command line asks for. -/
inductive Invocation where
  | lookup (arguments : Arguments)
  | help (long : Bool)
  | version
  | refused (fault : UsageFault)
  deriving DecidableEq, Repr

namespace OutputFormat

def name : OutputFormat → String
  | text => "text"
  | json => "json"

def ofName? : String → Option OutputFormat
  | "text" => some text
  | "json" => some json
  | _ => none

end OutputFormat

def positionalNames : List String := ["<IP>", "<USER>", "<PASSWORD>", "<METRICPROPERTY>"]

def formatValues : String := "  [possible values: text, json]"

/-- Names what is wrong, with the words of the command line as a terminal may show them. -/
def UsageFault.lines : UsageFault → List String
  | missing names =>
    "error: the following required arguments were not provided:" :: names.map ("  " ++ ·)
  | unknown argument => [s!"error: unexpected argument '{withoutControls argument}' found"]
  | invalidFormat "" | missingFormat =>
    ["error: a value is required for '--format <FORMAT>' but none was supplied", formatValues]
  | invalidFormat value =>
    [s!"error: invalid value '{withoutControls value}' for '--format <FORMAT>'", formatValues]
  | repeatedFormat =>
    ["error: the argument '--format <FORMAT>' cannot be used multiple times"]
  | unexpectedValue value option =>
    [s!"error: unexpected value '{withoutControls value}' for '{option}' found; " ++
      "no more were expected"]

/-- Takes a command line apart. -/
abbrev CommandReader := Command → List String → Except Stop Matches

def Matches.required (m : Matches) (name : String) : Except UsageFault String :=
  match m.value name with
  | some text => pure text
  | none => throw (.missing [name])

namespace Arguments

def command : Command where
  positionals := ["ip", "user", "password", "metricproperty"]
  choices := [⟨"format", [OutputFormat.text.name, OutputFormat.json.name], OutputFormat.text.name⟩]
  flags := [⟨"verbose", 'v'⟩]

def ofMatches (m : Matches) : Except UsageFault Arguments := do
  let host ← m.required "ip"
  let user ← m.required "user"
  let password ← m.required "password"
  let property ← m.required "metricproperty"
  let value ← m.required "format"
  match OutputFormat.ofName? value with
  | some format => return ⟨host, user, password, property, format, m.count "verbose"⟩
  | none => throw (.invalidFormat value)

def read (parse : CommandReader) (words : List String) : Except Stop Arguments := do
  let found ← parse command words
  (ofMatches found).mapError .refused

end Arguments

def Invocation.ofRead : Except Stop Arguments → Invocation
  | .ok a => .lookup a
  | .error (.help long) => .help long
  | .error .version => .version
  | .error (.refused fault) => .refused fault

end SensorThresholds
