import SensorThresholds.Arguments

/-!
The texts that describe the command line, in a short and a long form.
-/

namespace SensorThresholds

def versionLines : List String := ["idrac-sensor-thresholds 0.1.0"]

def usageLines : List String :=
  ["Find the sensor thresholds of a metric property or of every property in a metric report",
   "",
   "Usage: get-sensor-thresholds [OPTIONS] <IP> <USER> <PASSWORD> <METRICPROPERTY>",
   ""]

def shortHelp : List String :=
  usageLines ++
  ["Arguments:",
   "  <IP>              iDRAC IP address (optionally with :port)",
   "  <USER>            iDRAC username",
   "  <PASSWORD>        iDRAC password",
   "  <METRICPROPERTY>  Metric property (with #Fragment) or metric report id/path",
   "",
   "Options:",
   "      --format <FORMAT>  Output format [default: text] [possible values: text, json]",
   "  -v, --verbose...       Enable verbose logging (-v for debug, -vv for trace)",
   "  -h, --help             Print help (see more with '--help')",
   "  -V, --version          Print version"]

def longHelp : List String :=
  usageLines ++
  ["Arguments:",
   "  <IP>",
   "          iDRAC IP address (optionally with :port)",
   "",
   "  <USER>",
   "          iDRAC username",
   "",
   "  <PASSWORD>",
   "          iDRAC password",
   "",
   "  <METRICPROPERTY>",
   "          Metric property (with #Fragment) or metric report id/path",
   "",
   "Options:",
   "      --format <FORMAT>",
   "          Output format",
   "",
   "          Possible values:",
   "          - text: Human-readable lines",
   "          - json: One JSON object per metric property",
   "",
   "          [default: text]",
   "",
   "  -v, --verbose...",
   "          Enable verbose logging (-v for debug, -vv for trace)",
   "",
   "  -h, --help",
   "          Print help (see a summary with '-h')",
   "",
   "  -V, --version",
   "          Print version"]

/-- What an invocation that looks nothing up has to say. -/
def Invocation.lines : Invocation → List String
  | lookup _ => []
  | help long => if long then longHelp else shortHelp
  | version => versionLines
  | refused fault => fault.lines

end SensorThresholds
