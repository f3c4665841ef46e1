import SensorThresholds.Arguments
import SensorThresholds.Arguments.Command
import SensorThresholds.Arguments.Help
import SensorThresholds.Arguments.Reading
import SensorThresholds.Attributes
import SensorThresholds.Double
import SensorThresholds.Double.Shortest
import SensorThresholds.Double.Text
import SensorThresholds.Environment
import SensorThresholds.Environment.File
import SensorThresholds.Event
import SensorThresholds.Failure
import SensorThresholds.Http
import SensorThresholds.Http.Library
import SensorThresholds.Http.Message
import SensorThresholds.Json
import SensorThresholds.Json.Document
import SensorThresholds.Json.Number
import SensorThresholds.Json.Text
import SensorThresholds.Json.Token
import SensorThresholds.Json.Written
import SensorThresholds.Level
import SensorThresholds.Log
import SensorThresholds.Log.Directive
import SensorThresholds.Log.Filter
import SensorThresholds.Lookup
import SensorThresholds.Main
import SensorThresholds.Program
import SensorThresholds.Proofs.AbsolutePaths
import SensorThresholds.Proofs.Arithmetic
import SensorThresholds.Proofs.AttributesDocument
import SensorThresholds.Proofs.ExactValue
import SensorThresholds.Proofs.FailureKinds
import SensorThresholds.Proofs.FirstFailure
import SensorThresholds.Proofs.InOrder
import SensorThresholds.Proofs.IntegerDisplay
import SensorThresholds.Proofs.LimitedOutput
import SensorThresholds.Proofs.Numerals
import SensorThresholds.Proofs.PowersOfTen
import SensorThresholds.Proofs.Replay
import SensorThresholds.Proofs.ReportText
import SensorThresholds.Proofs.Resolution
import SensorThresholds.Proofs.Rounding
import SensorThresholds.Proofs.Run
import SensorThresholds.Proofs.Script
import SensorThresholds.Proofs.Truncation
import SensorThresholds.Report
import SensorThresholds.Session
import SensorThresholds.Settings
import SensorThresholds.Sink
import SensorThresholds.Source
import SensorThresholds.TargetSet
import SensorThresholds.Text.Alphanumeric
import SensorThresholds.Text.AsciiForm
import SensorThresholds.Text.Base64
import SensorThresholds.Text.Blank
import SensorThresholds.Text.Cased
import SensorThresholds.Text.CharSet
import SensorThresholds.Text.Controls
import SensorThresholds.Text.LowerCase
import SensorThresholds.Text.Marked
import SensorThresholds.Text.Numeral
import SensorThresholds.Text.Pattern
import SensorThresholds.Text.Printable
import SensorThresholds.Text.Quoted
import SensorThresholds.Text.Utf16
import SensorThresholds.Text.Utf8
import SensorThresholds.Threshold
import SensorThresholds.Traced
import SensorThresholds.Url
import SensorThresholds.Url.Host
import SensorThresholds.Proofs.EntryOrder
import SensorThresholds.Proofs.Related
import SensorThresholds.Proofs.OutputFormats
import SensorThresholds.Proofs.Nearest
import SensorThresholds.Proofs.ShortestDecimal
import SensorThresholds.Proofs.DecimalText
import SensorThresholds.Proofs.DecimalDisplay
import SensorThresholds.Proofs.JsonNumbers
import SensorThresholds.Proofs.JsonTokens
import SensorThresholds.Proofs.JsonReading
import SensorThresholds.Proofs.JsonLine
import SensorThresholds.Proofs.ReadMembers
import SensorThresholds.Proofs.Credentials
import SensorThresholds.Proofs.Flushing
import SensorThresholds.Proofs.TextLines
import SensorThresholds.Proofs.Fragments
import SensorThresholds.Proofs.ReportNames
import SensorThresholds.Proofs.PlainPaths
import SensorThresholds.Proofs.InMemory
import SensorThresholds.Proofs.LastCall
import SensorThresholds.Proofs.RoundingOrder
import SensorThresholds.Proofs.Scaling
import SensorThresholds.Proofs.ScaledRange
import SensorThresholds.Proofs.ThresholdOrder
import SensorThresholds.Proofs.AllOrNothing
import SensorThresholds.Proofs.FullNumerals
import SensorThresholds.Proofs.PlacesShown
import SensorThresholds.Proofs.LowerCase
import SensorThresholds.Proofs.Utf8Reading
import SensorThresholds.Proofs.SettingsAccepted
import SensorThresholds.Proofs.Base64Reading
import SensorThresholds.Proofs.JsonGrammar
import SensorThresholds.Proofs.ClientOutcome
import SensorThresholds.Proofs.ArgumentReading
import SensorThresholds.Proofs.OptionPlacement
import SensorThresholds.Proofs.SettingsHeeded
import SensorThresholds.Proofs.UnitModifier
