import SensorThresholds.Arguments

/-!
Taking a command line apart. Arguments are taken from left to right, and the first one that is
wrong, or asks for help or the version, decides; what is missing is noticed at the end.
-/

namespace SensorThresholds

/-- The value of the format option, which is not judged before the option is followed by another
argument that is accepted. -/
inductive FormatValue where
  | none
  | awaited
  | given (value : String)
  deriving DecidableEq, Repr

/-- What has been found so far. -/
structure Reading where
  found : Matches
  pending : FormatValue

namespace Reading

def empty : Reading := ⟨.empty, .none⟩

abbrev Step := Except Stop Reading

def refuse {α : Type} (fault : UsageFault) : Except Stop α := throw (.refused fault)

/-- Judges the format that is pending. -/
def settle (r : Reading) : Step :=
  match r.pending with
  | .none => pure r
  | .awaited => refuse .missingFormat
  | .given value =>
    if (r.found.value "format").isSome then refuse .repeatedFormat
    else if (OutputFormat.ofName? value).isSome then pure ⟨r.found.given "format" value, .none⟩
    else refuse (.invalidFormat value)

def countVerbose (r : Reading) : Step := do
  let r ← r.settle
  return { r with found := r.found.counted "verbose" }

def askHelp (r : Reading) (long : Bool) : Step := do
  let _ ← r.settle
  throw (.help long)

def askVersion (r : Reading) : Step := do
  let _ ← r.settle
  throw .version

def takePositional (r : Reading) (argument : String) : Step :=
  match Arguments.command.next? r.found with
  | some name => do
    let r ← r.settle
    return { r with found := r.found.given name argument }
  | none => refuse (.unknown argument)

/-- An option written `--name` or `--name=value`. -/
def takeLong (r : Reading) (name : String) (value : Option String) : Step :=
  match name, value with
  | "format", some value => do
    let r ← r.settle
    settle { r with pending := .given value }
  | "format", none => do
    let r ← r.settle
    return { r with pending := .awaited }
  | "verbose", none => r.countVerbose
  | "help", none => r.askHelp true
  | "version", none => r.askVersion
  | "verbose", some value => refuse (.unexpectedValue value "--verbose...")
  | "help", some value => refuse (.unexpectedValue value "--help")
  | "version", some value => refuse (.unexpectedValue value "--version")
  | name, _ => refuse (.unknown s!"--{name}")

/-- One of the letters after a single dash. -/
def takeLetter (r : Reading) (c : Char) : Step :=
  if c = 'v' then r.countVerbose
  else if c = 'h' then r.askHelp false
  else if c = 'V' then r.askVersion
  else refuse (.unknown (.ofList ['-', c]))

def takeValue (r : Reading) (argument : String) : Step :=
  if r.pending = .awaited then return { r with pending := .given argument }
  else r.takePositional argument

/-- An argument while options are still recognised. -/
def take (r : Reading) (argument : String) : Step :=
  match argument.toList with
  | '-' :: '-' :: rest =>
    let name := String.ofList (rest.takeWhile (· ≠ '='))
    match rest.dropWhile (· ≠ '=') with
    | [] => r.takeLong name none
    | _ :: value => r.takeLong name (some (.ofList value))
  | '-' :: c :: rest => (c :: rest).foldlM takeLetter r
  | _ => r.takeValue argument

/-- After `--` every argument is positional. -/
def takeAll (r : Reading) : List String → Step
  | [] => r.settle
  | "--" :: rest => do
    let r ← rest.foldlM takePositional r
    r.settle
  | argument :: rest => do
    let r ← r.take argument
    takeAll r rest

/-- The texts that are missing, as they stand in the usage. -/
def missing (r : Reading) : List String :=
  ((Arguments.command.positionals.zip positionalNames).filter
    fun (name, _) => (r.found.value name).isNone).map Prod.snd

def finish (r : Reading) : Except Stop Matches :=
  match r.missing with
  | [] => pure (r.found.withDefaults Arguments.command)
  | names => refuse (.missing names)

def parse (words : List String) : Except Stop Matches := do
  let r ← empty.takeAll words
  r.finish

end Reading

def Invocation.ofArguments (words : List String) : Invocation :=
  .ofRead (Arguments.read (fun _ => Reading.parse) words)

end SensorThresholds
