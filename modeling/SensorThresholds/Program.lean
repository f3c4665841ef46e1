import SensorThresholds.Arguments.Help
import SensorThresholds.Arguments.Reading
import SensorThresholds.Environment.File
import SensorThresholds.Http
import SensorThresholds.Log
import SensorThresholds.Lookup
import SensorThresholds.Settings

/-!
The whole program: settings, client, lookup and output put together, and what a finished run leaves
on the outputs.
-/

namespace SensorThresholds

inductive ProgramFault where
  | settings (fault : SettingsFault)
  | lookup (failure : Failure)

namespace ProgramFault

/-- The last entry of the log of a run that fails. -/
def entry : ProgramFault → LogEntry
  | settings fault => .plain .program .error fault.message
  | lookup failure => ⟨.error, .program, failure.message, none, some failure.kind⟩

end ProgramFault

abbrev ProgramAction := Traced Event ProgramFault Writer

def OutputFormat.sink : OutputFormat → Sink Writer
  | text => .text
  | json => .json

def logAll : List String → ProgramAction Unit
  | [] => pure ()
  | line :: rest => do
    Traced.emit (.log (.plain .settings .debug line))
    logAll rest

/-- The client for the settings, unless the library has none. -/
def Arguments.client (a : Arguments) (lib : HttpLibrary) (settings : Settings) :
    Except SettingsFault Client :=
  match lib.refusal? settings.verifyTls settings.timeoutSeconds with
  | some reason => throw (.client reason)
  | none => pure ⟨settings.scheme, a.host, a.user, a.password⟩

/-- Looks up what the arguments name, with settings from the environment. -/
def Arguments.runOver (a : Arguments) (env : Environment) (lib : HttpLibrary) (peer : Peer) :
    ProgramAction Unit := do
  let settings ← Traced.ofExcept ((Settings.ofEnvironment env).mapError .settings)
  logAll (settings.describe a.host a.user)
  let client ← Traced.ofExcept ((a.client lib settings).mapError .settings)
  let lookup : Lookup Writer :=
    ⟨client.sourceOver lib peer, settings.reportBase, a.format.sink⟩
  (lookup.run a.property).relabel id ProgramFault.lookup

def Arguments.run (a : Arguments) (env : Environment) (server : Server) : ProgramAction Unit :=
  a.runOver env .plain server.peer

/-- What a finished run leaves behind. -/
structure Exit where
  code : Nat
  output : List UInt8
  errors : List String
  requests : List Request
  deriving DecidableEq, Repr

namespace Exit

/-- The part of a trace that is seen once the run is over. What was wrong with the directives for
the log is said before anything else. -/
def ofTrace (code : Nat) (style : LogStyle) (trace : List Event) : Exit where
  code := code
  output := trace.flatMap fun
    | .write bytes => bytes
    | _ => []
  errors := style.filter.complaints ++ trace.filterMap fun
    | .log entry => style.line? entry
    | _ => none
  requests := trace.filterMap fun
    | .request r => some r
    | _ => none

/-- A failure is the last entry of the log. -/
def ofOutcome (style : LogStyle) (outcome : Outcome Event ProgramFault Writer Unit) : Exit :=
  match outcome.result with
  | .ok () => ofTrace 0 style outcome.trace
  | .error fault => ofTrace 1 style (outcome.trace ++ [.log fault.entry])

/-- Lines that go to the output as far as it takes them. -/
def ofLines (lines : List String) (writer : Writer) : Exit :=
  ofTrace 0 .plain (((putLines lines).relabel SinkEvent.toEvent id) writer).trace

end Exit

/-- The surroundings of a run: its variables, the text of a file with more of them, whether the log
goes to a terminal, the peer, and the output. -/
structure Surroundings where
  environment : Environment
  file : String
  terminal : Bool
  server : Server
  writer : Writer

/-- The variables and the style of the log that a lookup runs with. -/
def Surroundings.prepare (s : Surroundings) (a : Arguments) : Environment × LogStyle :=
  let env := s.environment.load s.file
  (env, .ofEnvironment env a.verbosity s.terminal)

/-- Carries out a command line. One that is refused is a usage error, and asking for help or the
version always succeeds. -/
def execute (s : Surroundings) (arguments : List String) : Exit :=
  match Invocation.ofArguments arguments with
  | .lookup a =>
    let (env, style) := s.prepare a
    .ofOutcome style (a.run env s.server s.writer)
  | .refused fault => ⟨2, [], fault.lines, []⟩
  | invocation => .ofLines invocation.lines s.writer

end SensorThresholds
