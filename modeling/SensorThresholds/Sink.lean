import SensorThresholds.Event
import SensorThresholds.Text.Utf8
import SensorThresholds.Traced

/-!
Where results go. A sink is handed notes and reports; the two sinks here write them to an output,
as lines of text or as one line of JSON for each report, and flush it after every call.
-/

namespace SensorThresholds

inductive SinkEvent where
  | write (bytes : List UInt8)
  | flush
  | debug (text : String)
  deriving DecidableEq, Repr

def SinkEvent.toEvent : SinkEvent → Event
  | write bytes => .write bytes
  | flush => .flush
  | debug text => .log (.plain .sink .debug text)

abbrev SinkAction (σ : Type) := Traced SinkEvent OutputFault σ

structure Sink (σ : Type) where
  note : String → SinkAction σ Unit
  report : Report → SinkAction σ Unit

/-- Takes everything and does nothing. -/
def Sink.silent : Sink Unit := ⟨fun _ => pure (), fun _ => pure ()⟩

/-- An output with limits: how many more bytes and flushes it takes, where there is a limit, and
what it says when it is full. -/
structure Writer where
  bytesLeft : Option Nat
  flushesLeft : Option Nat
  whenFull : OutputFault
  deriving DecidableEq, Repr

namespace Writer

def unlimited : Writer := ⟨none, none, .noSpace⟩

/-- Writes as many of the bytes as fit, and fails if that is not all of them. -/
def put (bytes : List UInt8) : SinkAction Writer Unit := fun w =>
  let taken := match w.bytesLeft with
    | none => bytes
    | some room => bytes.take room
  ⟨if taken.isEmpty then [] else [.write taken],
    { w with bytesLeft := w.bytesLeft.map (· - taken.length) },
    if taken.length < bytes.length then .error w.whenFull else .ok ()⟩

def putLine (line : String) : SinkAction Writer Unit := put (Utf8.encode (line ++ "\n"))

def flush : SinkAction Writer Unit := fun w =>
  match w.flushesLeft with
  | some 0 => ⟨[], w, .error .flushFailed⟩
  | left => ⟨[.flush], { w with flushesLeft := left.map (· - 1) }, .ok ()⟩

end Writer

def putLines : List String → SinkAction Writer Unit
  | [] => pure ()
  | line :: rest => do
    Writer.putLine line
    putLines rest

def Sink.text : Sink Writer where
  note line := do
    Writer.putLine line
    Writer.flush
  report r := do
    putLines r.lines
    Writer.flush

/-- Notes go to the log only. -/
def Sink.json : Sink Writer where
  note line := Traced.emit (.debug line)
  report r := do
    Writer.putLine r.json
    Writer.flush

end SensorThresholds
