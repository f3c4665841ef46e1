import SensorThresholds.Environment
import SensorThresholds.Event
import SensorThresholds.Text.LowerCase

/-!
How documents are reached: the scheme, the time limit, whether certificates are checked, and where
the metric reports are. Each setting comes from a variable or has a default, and the first variable
whose value makes no sense is an error.
-/

namespace SensorThresholds

structure Settings where
  scheme : String
  timeoutSeconds : Nat
  verifyTls : Bool
  reportBase : String
  deriving DecidableEq, Repr

/-- Why a text is no number of 64 bits. -/
inductive NumeralFault where
  | empty
  | invalidDigit
  | tooLarge
  deriving DecidableEq, Repr

def NumeralFault.message : NumeralFault → String
  | empty => "cannot parse integer from empty string"
  | invalidDigit => "invalid digit found in string"
  | tooLarge => "number too large to fit in target type"

/-- Why there are no settings, or no client for them. -/
inductive SettingsFault where
  | scheme (lowered : String)
  | timeout (fault : NumeralFault)
  | zeroTimeout
  | verifyTls (value : String)
  | client (reason : String)
  deriving DecidableEq, Repr

def SettingsFault.message : SettingsFault → String
  | scheme lowered => s!"Invalid REDFISH_SCHEME: expected https or http, got '{lowered}'"
  | timeout fault => s!"Invalid REDFISH_TIMEOUT_SECS: {fault.message}"
  | zeroTimeout => "Invalid REDFISH_TIMEOUT_SECS: must be greater than zero"
  | verifyTls value => s!"Invalid REDFISH_VERIFY_TLS: expected true/false, got '{value}'"
  | client reason => s!"Failed to build HTTP client: {reason}"

namespace Settings

/-- Adds digits to a number as long as it fits 64 bits. -/
def readDigits (n : Nat) : List Char → Except NumeralFault Nat
  | [] => pure n
  | c :: rest =>
    if c.isDigit then
      let n := n * 10 + (c.toNat - '0'.toNat)
      if n < Nat.pow 2 64 then readDigits n rest else throw .tooLarge
    else throw .invalidDigit

/-- Reads digits after an optional plus sign. -/
def readNumeral (text : String) : Except NumeralFault Nat :=
  match text.toList with
  | [] => throw .empty
  | ['+'] => throw .invalidDigit
  | '+' :: rest => readDigits 0 rest
  | cs => readDigits 0 cs

def readScheme (env : Environment) : Except SettingsFault String :=
  let scheme := lowerCase ((env.get? "REDFISH_SCHEME").getD "https")
  if scheme = "https" ∨ scheme = "http" then pure scheme else throw (.scheme scheme)

def readTimeout (env : Environment) : Except SettingsFault Nat :=
  match env.get? "REDFISH_TIMEOUT_SECS" with
  | none => pure 30
  | some text =>
    match readNumeral text with
    | .ok 0 => throw .zeroTimeout
    | .ok n => pure n
    | .error fault => throw (.timeout fault)

def readVerifyTls (env : Environment) : Except SettingsFault Bool :=
  match env.get? "REDFISH_VERIFY_TLS" with
  | none => pure false
  | some text =>
    if text ∈ ["1", "true", "yes"] then pure true
    else if text ∈ ["0", "false", "no"] then pure false
    else throw (.verifyTls text)

def defaultReportBase : String := "/redfish/v1/TelemetryService/MetricReports/"

def withSlash (path : String) : String :=
  if path.toList.getLast? = some '/' then path else path ++ "/"

def ofEnvironment (env : Environment) : Except SettingsFault Settings := do
  let scheme ← readScheme env
  let timeout ← readTimeout env
  let verifyTls ← readVerifyTls env
  return ⟨scheme, timeout, verifyTls,
    withSlash ((env.get? "REDFISH_REPORT_BASE").getD defaultReportBase)⟩

/-- What the log says of the settings and of the peer; the password is not among it. -/
def describe (s : Settings) (host user : String) : List String :=
  ["Configuration loaded:",
   s!"  TARGET               : {s.scheme}://{host}",
   s!"  USER                 : {user}",
   "  PASSWORD             : ****",
   s!"  REDFISH_TIMEOUT_SECS : {s.timeoutSeconds}",
   s!"  REDFISH_VERIFY_TLS   : {s.verifyTls}",
   s!"  REDFISH_REPORT_BASE  : {s.reportBase}"]

end Settings
end SensorThresholds
