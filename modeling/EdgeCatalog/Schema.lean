import EdgeCatalog.Config.Basic
import EdgeCatalog.Record.Device

/-! JSON schemas of the records. A schema lists the fields with their types; the default of a field
is what a default record writes for it, so a field that is left out has none. -/
namespace EdgeCatalog.Schema

/-- The type of a field. -/
inductive FieldType
  | text
  | truth
  | int (format : String)
  | word (format : String)
  | instant
  | optionalInstant
  | object
  | list (item : FieldType)
  | definition (name : String)

def typed (type : String) (more : List (String × Json)) : List (String × Json) :=
  more ++ [("type", .string type)]

def FieldType.schema : FieldType → List (String × Json)
  | .text => typed "string" []
  | .truth => typed "boolean" []
  | .int format => typed "integer" [("format", .string format)]
  | .word format =>
    typed "integer" [("format", .string format), ("minimum", .number (.double 0))]
  | .instant => typed "string" [("format", .string "date-time")]
  | .optionalInstant =>
    [("format", .string "date-time"), ("type", .ofStrings ["string", "null"])]
  | .object => typed "object" [("additionalProperties", .bool true)]
  | .list item => typed "array" [("items", .object item.schema)]
  | .definition name => [("$ref", .string ("#/definitions/" ++ name))]

structure Field where
  name : String
  type : FieldType
  description : Option String := none

def describe : Option String → List (String × Json)
  | some description => [("description", .string description)]
  | none => []

/-- The schema of a field; a reference to a definition that carries more stands in a list. -/
def Field.schema (f : Field) (defaults : Json) : Json :=
  let more := (match defaults.get? f.name with
    | some value => [("default", value)]
    | none => []) ++ describe f.description
  let base := match f.type, more with
    | .definition name, _ :: _ =>
      [("allOf", Json.array [.object (FieldType.definition name).schema])]
    | type, _ => type.schema
  .object (Json.canonicalFields (base ++ more))

/-- A record with its fields and the tree of its default. -/
structure Shape where
  name : String
  description : String
  fields : List Field
  defaults : Json

def Shape.body (s : Shape) : List (String × Json) :=
  [("description", .string s.description),
    ("properties", .object
      (Json.canonicalFields (s.fields.map fun f => (f.name, f.schema s.defaults)))),
    ("type", .string "object")]

/-- A choice between names. -/
structure Choice where
  name : String
  description : String
  names : List String

def Choice.body (c : Choice) : List (String × Json) :=
  [("description", .string c.description), ("enum", .ofStrings c.names), ("type", .string "string")]

/-- A whole schema with the definitions it refers to. -/
def document (s : Shape) (definitions : List (String × Json)) : Json :=
  .object (Json.canonicalFields (s.body ++ [
    ("$schema", .string "http://json-schema.org/draft-07/schema#"),
    ("title", .string s.name),
    ("definitions", .object definitions)]))

def protocol : Shape where
  name := "Protocol"
  description := "Protocol description of a resource or service API."
  fields := [
    ⟨"type", .text, none⟩, ⟨"endpoint", .object, none⟩, ⟨"methods", .list .text, none⟩,
    ⟨"content-types", .list .text, none⟩]
  defaults := ({} : Protocol).toJson

def resource : Shape where
  name := "Resource"
  description := "A resource exposed by a device."
  fields := [
    ⟨"id", .text, none⟩, ⟨"type", .text, none⟩, ⟨"name", .text, none⟩, ⟨"meta", .object, none⟩,
    ⟨"protocols", .list (.definition "Protocol"), none⟩, ⟨"representation", .object, none⟩,
    ⟨"device", .text, some "Id of the owning device"⟩]
  defaults := ({} : Resource).toJson

def ttlField : Field :=
  ⟨"ttl", .int "int64", some "Seconds to live after the last update; negative never expires"⟩

def device : Shape where
  name := "Device"
  description := "A device registration."
  fields := [
    ⟨"id", .text, none⟩, ⟨"type", .text, none⟩, ⟨"name", .text, none⟩, ⟨"meta", .object, none⟩,
    ⟨"description", .text, none⟩, ttlField, ⟨"created", .instant, none⟩,
    ⟨"updated", .instant, none⟩, ⟨"expires", .optionalInstant, none⟩,
    ⟨"resources", .list (.definition "Resource"), none⟩]
  defaults := ({} : Device).toJson

def service : Shape where
  name := "Service"
  description := "A service registration."
  fields := [
    ⟨"id", .text, none⟩, ⟨"type", .text, none⟩, ⟨"name", .text, none⟩,
    ⟨"description", .text, none⟩, ⟨"meta", .object, none⟩,
    ⟨"protocols", .list (.definition "Protocol"), none⟩, ⟨"representation", .object, none⟩,
    ttlField, ⟨"created", .instant, none⟩, ⟨"updated", .instant, none⟩,
    ⟨"expires", .optionalInstant, none⟩]
  defaults := ({} : Service).toJson

def catalogKind : Choice where
  name := "CatalogKind"
  description := "Which flavor of catalog the daemon hosts"
  names := [CatalogKind.device.name, CatalogKind.service.name]

def storage : Choice where
  name := "StorageBackend"
  description := "Storage backend; only the in-memory store exists"
  names := [Storage.memory.name]

def config : Shape where
  name := "CatalogConfig"
  description := "Catalog daemon configuration"
  fields := [
    ⟨"name", .text, none⟩, ⟨"description", .text, none⟩,
    ⟨"host", .text, some "Host part of the self-registration id"⟩,
    ⟨"kind", .definition "CatalogKind", none⟩, ⟨"storage", .definition "StorageBackend", none⟩,
    ⟨"endpoint", .text, some "`host:port` the catalog API is reachable at"⟩,
    ⟨"maxPerPage", .word "uint", none⟩, ⟨"sweepIntervalSecs", .word "uint64", none⟩,
    ⟨"selfRegister", .truth,
      some "Register the catalog in its own store (service catalogs only)"⟩]
  defaults := ({} : Config).toJson

def define (s : Shape) : String × Json :=
  (s.name, .object s.body)

/-- The schemas of devices, services and the configuration. -/
def all : Json :=
  .object [
    ("config", document config
      [(catalogKind.name, .object catalogKind.body), (storage.name, .object storage.body)]),
    ("device", document device [define protocol, define resource]),
    ("service", document service [define protocol])]

end EdgeCatalog.Schema
