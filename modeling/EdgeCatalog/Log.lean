import EdgeCatalog.Error

/-! Log events of the catalog, and the lines in which they are shown. -/
namespace EdgeCatalog

inductive Level
  | trace
  | debug
  | info
  | warn
  | error
  deriving DecidableEq

def Level.name : Level → String
  | .trace => "TRACE"
  | .debug => "DEBUG"
  | .info => "INFO"
  | .warn => "WARN"
  | .error => "ERROR"

/-- From the most to the least detailed. -/
def Level.rank : Level → Nat
  | .trace => 0
  | .debug => 1
  | .info => 2
  | .warn => 3
  | .error => 4

/-- What happened. -/
inductive Event
  | deviceAdded (id : String) (resources : Nat) (ttl : Int64)
  | deviceUpdated (id : String) (resources : Nat) (ttl : Int64)
  | deviceDeleted (id : String) (resources : Nat)
  | deviceExpired (id : String) (resources : Nat)
  | devicesRemoved (count : Nat)
  | deviceTablesDisagree (cause : Inconsistency)
  | serviceAdded (id : String) (ttl : Int64)
  | serviceUpdated (id : String) (ttl : Int64)
  | serviceDeleted (id : String)
  | serviceExpired (id : String)
  | servicesRemoved (count : Nat)
  | serviceTablesDisagree (cause : Inconsistency)
  | sweeperStarted (intervalMs : UInt64)
  | sweepFinished (removed remaining : Nat)
  | sweeperStopped
  | notice (message : String)
  | selfRegistered (id : String)
  | trouble (message : String)
  deriving DecidableEq

inductive LogValue
  | text (value : String)
  | int (value : Int)
  deriving DecidableEq

/-- A line of the log: a message with named values, from a part of the program. -/
structure LogLine where
  level : Level
  target : String
  message : String
  fields : List (String × LogValue) := []
  deriving DecidableEq

namespace Event

def deviceTarget : String := "iot_catalog::catalog::device"
def serviceTarget : String := "iot_catalog::catalog::service"
def sweeperTarget : String := "iot_catalog::catalog::sweeper"
def programTarget : String := "iot_catalog"

def line : Event → LogLine
  | .deviceAdded id resources ttl =>
    ⟨.debug, deviceTarget, "Added device",
      [("id", .text id), ("resources", .int resources), ("ttl", .int ttl.toInt)]⟩
  | .deviceUpdated id resources ttl =>
    ⟨.debug, deviceTarget, "Updated device",
      [("id", .text id), ("resources", .int resources), ("ttl", .int ttl.toInt)]⟩
  | .deviceDeleted id resources =>
    ⟨.debug, deviceTarget, "Deleted device", [("id", .text id), ("resources", .int resources)]⟩
  | .deviceExpired id resources =>
    ⟨.warn, deviceTarget, "Device registration has expired",
      [("id", .text id), ("resources", .int resources)]⟩
  | .devicesRemoved count =>
    ⟨.info, deviceTarget, "Removed expired devices", [("removed", .int count)]⟩
  | .deviceTablesDisagree cause =>
    ⟨.error, deviceTarget, "Device catalog invariant violated", [("reason", .text cause.reason)]⟩
  | .serviceAdded id ttl =>
    ⟨.debug, serviceTarget, "Added service registration",
      [("id", .text id), ("ttl", .int ttl.toInt)]⟩
  | .serviceUpdated id ttl =>
    ⟨.debug, serviceTarget, "Updated service registration",
      [("id", .text id), ("ttl", .int ttl.toInt)]⟩
  | .serviceDeleted id =>
    ⟨.debug, serviceTarget, "Deleted service registration", [("id", .text id)]⟩
  | .serviceExpired id =>
    ⟨.warn, serviceTarget, "Service registration has expired", [("id", .text id)]⟩
  | .servicesRemoved count =>
    ⟨.info, serviceTarget, "Removed expired service registrations", [("removed", .int count)]⟩
  | .serviceTablesDisagree cause =>
    ⟨.error, serviceTarget, "Service catalog invariant violated", [("reason", .text cause.reason)]⟩
  | .sweeperStarted intervalMs =>
    ⟨.info, sweeperTarget, "Starting expiry sweeper", [("interval_ms", .int intervalMs.toNat)]⟩
  | .sweepFinished removed remaining =>
    ⟨.debug, sweeperTarget, "Expiry sweep finished",
      [("removed", .int removed), ("remaining", .int remaining)]⟩
  | .sweeperStopped => ⟨.info, sweeperTarget, "Expiry sweeper stopped", []⟩
  | .notice message => ⟨.info, programTarget, message, []⟩
  | .selfRegistered id =>
    ⟨.info, programTarget, "Registered catalog in its own store", [("id", .text id)]⟩
  | .trouble message => ⟨.error, programTarget, message, []⟩

end Event

namespace LogLine

def valueText : LogValue → String
  | .text s => s
  | .int n => toString n

/-- Characters that steer a terminal. -/
def isSteering (c : Char) : Bool :=
  c.toNat ∈ [0x07, 0x08, 0x0c, 0x1b, 0x7f] || (0x80 ≤ c.toNat && c.toNat ≤ 0x9f)

/-- Steering characters are shown as their codes. -/
def shownChar (c : Char) : List Char :=
  if !isSteering c then [c]
  else
    let digits := Nat.toDigits 16 c.toNat
    if c.toNat < 0x80 then
      '\\' :: 'x' :: (List.replicate (2 - digits.length) '0' ++ digits)
    else '\\' :: 'u' :: '{' :: (digits ++ ['}'])

/-- The message as a line of text shows it. -/
def shownMessage (message : String) : String :=
  String.ofList (message.toList.flatMap shownChar)

/-- Level, source, message, and then the values. -/
def text (l : LogLine) : String :=
  l.fields.foldl (fun line (name, value) => line ++ " " ++ name ++ "=" ++ valueText value)
    (l.level.name ++ " " ++ l.target ++ ": " ++ shownMessage l.message)

def valueJson : LogValue → Json
  | .text s => .string s
  | .int n => .ofInt n

/-- An object with the level, the source, and the message among the values. -/
def toJson (l : LogLine) : Json :=
  .object [
    ("fields", .object
      (Json.canonicalFields (("message", .string l.message)
        :: l.fields.map fun (name, value) => (name, valueJson value)))),
    ("level", .string l.level.name),
    ("target", .string l.target)]

end LogLine

end EdgeCatalog
