import EdgeCatalog.Record.Resource
import EdgeCatalog.Expiry

/-! Devices. -/
namespace EdgeCatalog

open Record

/-- A registered device with its resources. -/
structure Device where
  id : String := ""
  type : String := ""
  name : String := ""
  metadata : Meta := ∅
  description : String := ""
  /-- Seconds to live after the last update; a negative number means for ever. -/
  ttl : Int64 := 0
  created : Instant := .epoch
  updated : Instant := .epoch
  expires : Option Instant := none
  resources : List Resource := []

namespace Device

/-- The fields in their order. -/
def outline : Json.Outline :=
  .record (wholes ["id", "type", "name", "meta", "description", "ttl", "created", "updated",
    "expires"] ++ [("resources", .list Resource.outline)])

/-- The expiry and the resources are left out when there are none. -/
def toJson (d : Device) : Json :=
  .object ([("created", ofInstant d.created), ("description", .string d.description)]
    ++ expiresField d.expires ++ [
    ("id", .string d.id),
    ("meta", d.metadata.toJson),
    ("name", .string d.name)]
    ++ (if d.resources.isEmpty then []
      else [("resources", .array (d.resources.map Resource.toJson))]) ++ [
    ("ttl", .ofInt d.ttl.toInt),
    ("type", .string d.type),
    ("updated", ofInstant d.updated)])

def ofJson? (tree : Json) : Option Device :=
  if hasShape 10 tree then do
    return {
      id := ← field? tree 0 "id" "" Json.asString?
      type := ← field? tree 1 "type" "" Json.asString?
      name := ← field? tree 2 "name" "" Json.asString?
      metadata := ← field? tree 3 "meta" ∅ Meta.ofJson?
      description := ← field? tree 4 "description" "" Json.asString?
      ttl := ← field? tree 5 "ttl" 0 int64?
      created := ← field? tree 6 "created" .epoch instant?
      updated := ← field? tree 7 "updated" .epoch instant?
      expires := ← field? tree 8 "expires" none optionalInstant?
      resources := ← field? tree 9 "resources" [] (Json.asList? Resource.ofJson?) }
  else none

/-- The first resource with the given name. -/
def resourceByName (d : Device) (name : String) : Except Error Resource :=
  match d.resources.find? (·.name = name) with
  | some r => .ok r
  | none => .error (.missing (.resourceName d.id name))

def isExpired (d : Device) (now : Instant) : Bool :=
  Expiry.isExpired d.ttl d.expires now

end Device

end EdgeCatalog
