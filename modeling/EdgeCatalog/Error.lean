import EdgeCatalog.Json.Basic
import EdgeCatalog.Text.Quoted

/-! What can go wrong, by cause. A message is made from the cause in one place. -/
namespace EdgeCatalog

open EdgeCatalog.Text (quoted)

/-- Why the input of a caller is refused. -/
inductive Invalid
  | recordId (id : String)
  | resourceId (id owner : String)
  | ttlRange (ttl : Int)
  | unknownRelation (name : String)
  | notText (path : String) (kind : Json.Kind)
  | deviceExists (id : String)
  | registrationExists (id : String)
  | resourceTwice (id owner : String)
  | resourceTaken (id owner : String)
  | sweepIntervalZero
  | sweepIntervalRange (nanos : Nat)
  | other (reason : String)
  deriving DecidableEq

/-- What a query was put to. -/
inductive Subject
  | device
  | resource
  | registration
  deriving DecidableEq

/-- What is not there. -/
inductive Missing
  | entry (id : String)
  | resourceName (device name : String)
  | matching (subject : Subject) (path relation value : String)
  | other (reason : String)
  deriving DecidableEq

/-- How the tables of a store disagree. -/
inductive Inconsistency
  | resourceRow (device resource : String)
  | ownerRow (device : String)
  | unit (key : String)
  | registrationRow (id : String)
  | other (reason : String)
  deriving DecidableEq

/-- Why a configuration is refused. -/
inductive Misconfigured
  | emptyName
  | endpoint (endpoint : String)
  | maxPerPage
  | sweepInterval
  | registrationId (cause : Invalid)
  | unknownKind (name : String)
  | other (reason : String)
  deriving DecidableEq

/-- Why a file cannot be read. -/
inductive FileFault
  | missing
  | directory
  | notDirectory
  | encoding
  | other (reason : String)
  deriving DecidableEq

/-- An error of the catalog. -/
inductive Error
  | invalid (cause : Invalid)
  | missing (cause : Missing)
  | inconsistent (cause : Inconsistency)
  | malformedJson
  | malformedYaml
  | file (cause : FileFault)
  | misconfigured (cause : Misconfigured)
  | internal (reason : String)
  deriving DecidableEq

/-- A span of seconds and nanoseconds, with the shortest exact fraction. -/
def spanText (nanos : Nat) : String :=
  let fraction := Nat.toDigits 10 (nanos % 1000000000)
  let nine := List.replicate (9 - fraction.length) '0' ++ fraction
  let shown := (nine.reverse.dropWhile (· = '0')).reverse
  toString (nanos / 1000000000)
    ++ (if shown.isEmpty then "" else "." ++ String.ofList shown) ++ "s"

def Invalid.reason : Invalid → String
  | .recordId id => "record id " ++ quoted id ++ " has to be <namespace>/<name>"
  | .resourceId id owner => "resource id " ++ quoted id ++ " has to be " ++ owner ++ "/<resource>"
  | .ttlRange ttl => "ttl " ++ toString ttl ++ " is out of range"
  | .unknownRelation name => "unknown filter operation " ++ quoted name
  | .notText path kind => "path " ++ path ++ " resolves to a non-string value (" ++ kind.name ++ ")"
  | .deviceExists id => "device " ++ id ++ " already exists"
  | .registrationExists id => "registration " ++ id ++ " already exists"
  | .resourceTwice id owner => "resource " ++ id ++ " is listed twice by device " ++ owner
  | .resourceTaken id owner => "resource " ++ id ++ " already belongs to device " ++ owner
  | .sweepIntervalZero => "sweep interval must be non-zero"
  | .sweepIntervalRange nanos => "sweep interval " ++ spanText nanos ++ " is out of range"
  | .other reason => reason

def Subject.name : Subject → String
  | .device => "device"
  | .resource => "resource"
  | .registration => "registration"

def Missing.reason : Missing → String
  | .entry id => "no entry with id " ++ id
  | .resourceName device name => "device " ++ device ++ " has no resource " ++ name
  | .matching subject path relation value =>
    "no " ++ subject.name ++ " matches " ++ path ++ " " ++ relation ++ " " ++ quoted value
  | .other reason => reason

def Inconsistency.reason : Inconsistency → String
  | .resourceRow device resource => "device " ++ device ++ " lists missing resource " ++ resource
  | .ownerRow device => "owner device " ++ device ++ " is not stored"
  | .unit key => "paging unit " ++ key ++ " is neither a device nor a resource"
  | .registrationRow id => "indexed registration " ++ id ++ " is not stored"
  | .other reason => reason

def Misconfigured.reason : Misconfigured → String
  | .emptyName => "name must not be empty"
  | .endpoint text => "endpoint " ++ quoted text ++ " must be host:port"
  | .maxPerPage => "maxPerPage must be positive"
  | .sweepInterval => "sweepIntervalSecs must be positive"
  | .registrationId cause =>
    "host and name must form a registration id: Validation error: " ++ cause.reason
  | .unknownKind name => "unknown catalog kind " ++ quoted name
  | .other reason => reason

def FileFault.reason : FileFault → String
  | .missing => "No such file or directory (os error 2)"
  | .directory => "Is a directory (os error 21)"
  | .notDirectory => "Not a directory (os error 20)"
  | .encoding => "stream did not contain valid UTF-8"
  | .other reason => reason

namespace Error

/-- The name of the kind of error. -/
def kind : Error → String
  | .invalid _ => "Validation"
  | .missing _ => "NotFound"
  | .inconsistent _ => "Consistency"
  | .malformedJson => "Serialization"
  | .malformedYaml => "Yaml"
  | .file _ => "Io"
  | .misconfigured _ => "Config"
  | .internal _ => "Internal"

/-- The whole text of an error. What a text that does not parse suffers from is not told. -/
def message : Error → String
  | .invalid cause => "Validation error: " ++ cause.reason
  | .missing cause => "Not found: " ++ cause.reason
  | .inconsistent cause => "Consistency error: " ++ cause.reason
  | .malformedJson => "JSON error"
  | .malformedYaml => "YAML error"
  | .file cause => "I/O error: " ++ cause.reason
  | .misconfigured cause => "Configuration error: " ++ cause.reason
  | .internal reason => "Internal error: " ++ reason

/-- The HTTP status with which an interface answers. -/
def status : Error → Nat
  | .invalid _ => 400
  | .missing _ => 404
  | _ => 500

def isMissing : Error → Bool
  | .missing _ => true
  | _ => false

def isInvalid : Error → Bool
  | .invalid _ => true
  | _ => false

end Error

end EdgeCatalog
