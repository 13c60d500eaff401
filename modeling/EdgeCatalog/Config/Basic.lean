import EdgeCatalog.Record.Service
import EdgeCatalog.Text.Blank
import EdgeCatalog.Text.Lowercase

/-! The configuration of a catalog. -/
namespace EdgeCatalog

open Record

/-- What a catalog holds. -/
inductive CatalogKind
  | device
  | service
  deriving DecidableEq

/-- Where a catalog keeps its records. -/
inductive Storage
  | memory
  deriving DecidableEq

structure Config where
  name : String := "catalog"
  description : String := ""
  /-- The namespace of the id under which a catalog registers itself. -/
  host : String := "localhost"
  kind : CatalogKind := .device
  storage : Storage := .memory
  endpoint : String := "0.0.0.0:8082"
  maxPerPage : UInt64 := 100
  sweepIntervalSecs : UInt64 := 5
  /-- Whether a service catalog registers itself in its own store. -/
  selfRegister : Bool := true
  deriving DecidableEq

namespace CatalogKind

def name : CatalogKind → String
  | .device => "device"
  | .service => "service"

/-- The name with a capital letter. -/
def title : CatalogKind → String
  | .device => "Device"
  | .service => "Service"

def ofName? (name : String) : Option CatalogKind :=
  if name = "device" then some .device
  else if name = "service" then some .service
  else none

/-- The kind that a text names, whatever the case of its letters. -/
def parse (text : String) : Except Error CatalogKind :=
  match ofName? (Text.lowercase text) with
  | some kind => .ok kind
  | none => .error (.misconfigured (.unknownKind (Text.lowercase text)))

end CatalogKind

namespace Storage

def name : Storage → String
  | .memory => "memory"

def ofName? (name : String) : Option Storage :=
  if name = "memory" then some .memory else none

end Storage

namespace Config

instance : Inhabited Config := ⟨{}⟩

/-! ## As a tree -/

def toJson (c : Config) : Json :=
  .object [
    ("description", .string c.description),
    ("endpoint", .string c.endpoint),
    ("host", .string c.host),
    ("kind", .string c.kind.name),
    ("maxPerPage", .ofNat c.maxPerPage.toNat),
    ("name", .string c.name),
    ("selfRegister", .bool c.selfRegister),
    ("storage", .string c.storage.name),
    ("sweepIntervalSecs", .ofNat c.sweepIntervalSecs.toNat)]

/-- The fields in their order. -/
def outline : Json.Outline :=
  .record (wholes ["name", "description", "host", "kind", "storage", "endpoint", "maxPerPage",
    "sweepIntervalSecs", "selfRegister"])

/-- A choice between names: a text, or an object with the name as its only key and no content. -/
def choice? {α : Type} (ofName? : String → Option α) : Json → Option α
  | .string name => ofName? name
  | .object [(name, .null)] => ofName? name
  | _ => none

def ofJson? (tree : Json) : Option Config :=
  if hasShape 9 tree then do
    return {
      name := ← field? tree 0 "name" "catalog" Json.asString?
      description := ← field? tree 1 "description" "" Json.asString?
      host := ← field? tree 2 "host" "localhost" Json.asString?
      kind := ← field? tree 3 "kind" .device (choice? CatalogKind.ofName?)
      storage := ← field? tree 4 "storage" .memory (choice? Storage.ofName?)
      endpoint := ← field? tree 5 "endpoint" "0.0.0.0:8082" Json.asString?
      maxPerPage := ← field? tree 6 "maxPerPage" 100 uint64?
      sweepIntervalSecs := ← field? tree 7 "sweepIntervalSecs" 5 uint64?
      selfRegister := ← field? tree 8 "selfRegister" true Json.asBool? }
  else none

/-! ## Validity -/

/-- The id under which a catalog registers itself. -/
def registrationId (c : Config) : String :=
  c.host ++ "/" ++ c.name

/-- The number of a port: digits after an optional plus sign, at most 65535. -/
def port? (text : List Char) : Option Nat :=
  let digits := match text with
    | '+' :: rest => rest
    | cs => cs
  if digits.isEmpty || !digits.all Char.isDigit then none
  else
    let n := digits.foldl (fun n c => n * 10 + (c.toNat - 48)) 0
    if n ≤ 65535 then some n else none

/-- What follows the last colon. -/
def afterLastColon? (text : List Char) : Option (List Char) :=
  if ':' ∈ text then some ((text.reverse.takeWhile (· ≠ ':')).reverse) else none

/-- Does the endpoint end in a colon and a port? -/
def hasPort (endpoint : String) : Bool :=
  match afterLastColon? endpoint.toList with
  | some text => (port? text).isSome
  | none => false

/-- The rules that a configuration has to keep, in the order in which they are reported. -/
def check (c : Config) : Except Error Unit :=
  if Text.allBlank c.name then .error (.misconfigured .emptyName)
  else if !hasPort c.endpoint then .error (.misconfigured (.endpoint c.endpoint))
  else if c.maxPerPage = 0 then .error (.misconfigured .maxPerPage)
  else if c.sweepIntervalSecs = 0 then .error (.misconfigured .sweepInterval)
  else if c.kind = .service ∧ c.selfRegister then
    match Id.checkRecord c.registrationId with
    | .error (.invalid cause) => .error (.misconfigured (.registrationId cause))
    | .error e => .error e
    | .ok () => .ok ()
  else .ok ()

/-! ## Self-registration -/

/-- The path under which a catalog serves its interface. -/
def basePath : String := "/sc"

/-- The service type that a service catalog announces. -/
def serviceType : String := "_patchwork-sc._tcp"

/-- The registration of a catalog in its own store; it never expires. -/
def selfRegistration (c : Config) : Service :=
  { id := c.registrationId
    type := "Service"
    name := c.name
    description := c.description
    metadata := .ofFields [("serviceType", .string serviceType)]
    protocols := [{
      type := "REST"
      endpoint := .ofFields [("url", .string ("http://" ++ c.endpoint ++ basePath))]
      methods := ["GET", "POST", "PUT", "DELETE"]
      contentTypes := ["application/ld+json"] }]
    ttl := -1 }

end Config

end EdgeCatalog
