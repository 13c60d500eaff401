import EdgeCatalog.Config.Basic
import EdgeCatalog.CommandLine.Address
import EdgeCatalog.Text.Steering

/-! The options of the program, and the values they take. -/
namespace EdgeCatalog.CommandLine

/-- An option of the command line. -/
inductive Switch
  | config
  | kind
  | maxPerPage
  | sweepIntervalSecs
  | healthAddr
  | metricsAddr
  | logLevel
  | logJson
  | printSchema
  | help
  | version
  deriving DecidableEq

namespace Switch

def all : List Switch :=
  [config, kind, maxPerPage, sweepIntervalSecs, healthAddr, metricsAddr, logLevel, logJson,
   printSchema, help, version]

/-- The name after two dashes. -/
def long : Switch → String
  | .config => "config"
  | .kind => "kind"
  | .maxPerPage => "max-per-page"
  | .sweepIntervalSecs => "sweep-interval-secs"
  | .healthAddr => "health-addr"
  | .metricsAddr => "metrics-addr"
  | .logLevel => "log-level"
  | .logJson => "log-json"
  | .printSchema => "print-schema"
  | .help => "help"
  | .version => "version"

/-- The letter after one dash. -/
def short? : Switch → Option Char
  | .help => some 'h'
  | .version => some 'V'
  | _ => none

/-- What stands for the value of an option that takes one. -/
def placeholder? : Switch → Option String
  | .config => some "CONFIG"
  | .kind => some "KIND"
  | .maxPerPage => some "MAX_PER_PAGE"
  | .sweepIntervalSecs => some "SWEEP_INTERVAL_SECS"
  | .healthAddr => some "HEALTH_ADDR"
  | .metricsAddr => some "METRICS_ADDR"
  | .logLevel => some "LOG_LEVEL"
  | _ => none

/-- The variable of the environment that stands in for an option. -/
def setting? : Switch → Option String
  | .config => some "CATALOG_CONFIG"
  | .kind => some "CATALOG_KIND"
  | .maxPerPage => some "CATALOG_MAX_PER_PAGE"
  | .sweepIntervalSecs => some "CATALOG_SWEEP_INTERVAL_SECS"
  | .healthAddr => some "HEALTH_ADDR"
  | .metricsAddr => some "METRICS_ADDR"
  | .logLevel => some "LOG_LEVEL"
  | .logJson => some "LOG_JSON"
  | _ => none

def description : Switch → String
  | .config => "Configuration file (JSON, or YAML by extension)"
  | .kind => "Catalog flavor: device or service"
  | .maxPerPage => "Largest page a listing returns"
  | .sweepIntervalSecs => "Seconds between expiry sweeps"
  | .healthAddr => "Health server bind address"
  | .metricsAddr => "Metrics server bind address"
  | .logLevel => "Log level (trace, debug, info, warn, error)"
  | .logJson => "Output logs as JSON"
  | .printSchema => "Print the JSON Schema of the record types and exit"
  | .help => "Print help"
  | .version => "Print version"

/-- How a message shows the option. -/
def shown (s : Switch) : String :=
  "--" ++ s.long ++ (match s.placeholder? with
    | some name => " <" ++ name ++ ">"
    | none => "")

end Switch

/-- Why a command line is refused. -/
inductive Fault
  | unexpected (argument : String)
  | unneededValue (switch : Switch) (value : String)
  | valueRequired (switch : Switch)
  | repeated (switch : Switch)
  | invalidValue (switch : Switch) (value reason : String)
  | invalidChoice (switch : Switch) (value : String)
  deriving DecidableEq

/-- The first paragraph of a message. What was typed is shown without what steers a terminal. -/
def Fault.message : Fault → String
  | .unexpected argument => "error: unexpected argument '" ++ Text.shown argument ++ "' found"
  | .unneededValue switch value =>
    "error: unexpected value '" ++ Text.shown value ++ "' for '" ++ switch.shown
      ++ "' found; no more were expected"
  | .valueRequired switch =>
    "error: a value is required for '" ++ switch.shown ++ "' but none was supplied"
  | .repeated switch =>
    "error: the argument '" ++ switch.shown ++ "' cannot be used multiple times"
  | .invalidValue switch value reason =>
    "error: invalid value '" ++ Text.shown value ++ "' for '" ++ switch.shown ++ "': " ++ reason
  | .invalidChoice switch value =>
    "error: invalid value '" ++ Text.shown value ++ "' for '" ++ switch.shown ++ "'"

/-! ## Values -/

/-- Why a text is no 64-bit word. -/
inductive WordFault
  | empty
  | digit
  | tooLarge
  deriving DecidableEq

def WordFault.reason : WordFault → String
  | .empty => "cannot parse integer from empty string"
  | .digit => "invalid digit found in string"
  | .tooLarge => "number too large to fit in target type"

/-- The first fault from the left counts. -/
def readDigits (n : Nat) : List Char → Except WordFault UInt64
  | [] => .ok (UInt64.ofNat n)
  | c :: rest =>
    if !c.isDigit then .error .digit
    else
      let n := n * 10 + (c.toNat - 48)
      if n < UInt64.size then readDigits n rest else .error .tooLarge

/-- A word in decimal digits, after an optional plus sign. -/
def readWord (text : String) : Except WordFault UInt64 :=
  match text.toList with
  | [] => .error .empty
  | '+' :: c :: rest => readDigits 0 (c :: rest)
  | cs => readDigits 0 cs

/-- The values given for the options. -/
structure Options where
  config : Option String := none
  kind : Option CatalogKind := none
  maxPerPage : Option UInt64 := none
  sweepIntervalSecs : Option UInt64 := none
  healthAddr : Option Address := none
  metricsAddr : Option Address := none
  logLevel : Option String := none
  logJson : Option Bool := none
  printSchema : Option Bool := none
  deriving DecidableEq

namespace Options

/-- Where the health server listens. -/
def healthEndpoint (o : Options) : Address :=
  o.healthAddr.getD (.anyHost 8081)

/-- Where the metrics server listens. -/
def metricsEndpoint (o : Options) : Address :=
  o.metricsAddr.getD (.anyHost 8080)

def has (o : Options) : Switch → Bool
  | .config => o.config.isSome
  | .kind => o.kind.isSome
  | .maxPerPage => o.maxPerPage.isSome
  | .sweepIntervalSecs => o.sweepIntervalSecs.isSome
  | .healthAddr => o.healthAddr.isSome
  | .metricsAddr => o.metricsAddr.isSome
  | .logLevel => o.logLevel.isSome
  | .logJson => o.logJson.isSome
  | .printSchema => o.printSchema.isSome
  | .help => false
  | .version => false

def wordValue (switch : Switch) (value : String) : Except Fault UInt64 :=
  match readWord value with
  | .ok n => .ok n
  | .error e => .error (.invalidValue switch value e.reason)

def addressValue (switch : Switch) (value : String) : Except Fault Address :=
  match Address.ofText? value with
  | some address => .ok address
  | none => .error (.invalidValue switch value "invalid socket address syntax")

def truthValue (switch : Switch) (value : String) : Except Fault Bool :=
  if value = "true" then .ok true
  else if value = "false" then .ok false
  else if value = "" then .error (.valueRequired switch)
  else .error (.invalidChoice switch value)

/-- Sets an option that has not been given before. -/
def set (o : Options) (switch : Switch) (value : String) : Except Fault Options :=
  if o.has switch then .error (.repeated switch)
  else match switch with
    | .config =>
      if value = "" then .error (.valueRequired switch) else .ok { o with config := some value }
    | .kind =>
      match CatalogKind.parse value with
      | .ok kind => .ok { o with kind := some kind }
      | .error e => .error (.invalidValue switch value e.message)
    | .maxPerPage => (wordValue switch value).map fun n => { o with maxPerPage := some n }
    | .sweepIntervalSecs =>
      (wordValue switch value).map fun n => { o with sweepIntervalSecs := some n }
    | .healthAddr => (addressValue switch value).map fun a => { o with healthAddr := some a }
    | .metricsAddr => (addressValue switch value).map fun a => { o with metricsAddr := some a }
    | .logLevel => .ok { o with logLevel := some value }
    | .logJson => (truthValue switch value).map fun b => { o with logJson := some b }
    | .printSchema => (truthValue switch value).map fun b => { o with printSchema := some b }
    | .help => .ok o
    | .version => .ok o

end Options

end EdgeCatalog.CommandLine
