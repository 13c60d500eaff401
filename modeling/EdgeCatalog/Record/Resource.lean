import EdgeCatalog.Record.Fields

/-! Resources, and the protocols through which they are reached. -/
namespace EdgeCatalog

open Record

/-- How to reach a resource or a service. -/
structure Protocol where
  type : String := ""
  endpoint : Meta := ∅
  methods : List String := []
  contentTypes : List String := []

/-- What a device exposes. -/
structure Resource where
  id : String := ""
  type : String := ""
  name : String := ""
  metadata : Meta := ∅
  protocols : List Protocol := []
  representation : Meta := ∅
  /-- The id of the owner; empty before the resource is stored. -/
  device : String := ""

namespace Protocol

/-- The fields in their order. -/
def outline : Json.Outline :=
  .record (wholes ["type", "endpoint", "methods", "content-types"])

def toJson (p : Protocol) : Json :=
  .object [
    ("content-types", .ofStrings p.contentTypes),
    ("endpoint", p.endpoint.toJson),
    ("methods", .ofStrings p.methods),
    ("type", .string p.type)]

def ofJson? (tree : Json) : Option Protocol :=
  if hasShape 4 tree then do
    return {
      type := ← field? tree 0 "type" "" Json.asString?
      endpoint := ← field? tree 1 "endpoint" ∅ Meta.ofJson?
      methods := ← field? tree 2 "methods" [] (Json.asList? Json.asString?)
      contentTypes := ← field? tree 3 "content-types" [] (Json.asList? Json.asString?) }
  else none

end Protocol

namespace Resource

/-- The fields in their order. -/
def outline : Json.Outline :=
  .record (wholes ["id", "type", "name", "meta"] ++ [("protocols", .list Protocol.outline)]
    ++ wholes ["representation", "device"])

/-- The owner is left out when it is empty. -/
def toJson (r : Resource) : Json :=
  .object ((if r.device = "" then [] else [("device", .string r.device)]) ++ [
    ("id", .string r.id),
    ("meta", r.metadata.toJson),
    ("name", .string r.name),
    ("protocols", .array (r.protocols.map Protocol.toJson)),
    ("representation", r.representation.toJson),
    ("type", .string r.type)])

def ofJson? (tree : Json) : Option Resource :=
  if hasShape 7 tree then do
    return {
      id := ← field? tree 0 "id" "" Json.asString?
      type := ← field? tree 1 "type" "" Json.asString?
      name := ← field? tree 2 "name" "" Json.asString?
      metadata := ← field? tree 3 "meta" ∅ Meta.ofJson?
      protocols := ← field? tree 4 "protocols" [] (Json.asList? Protocol.ofJson?)
      representation := ← field? tree 5 "representation" ∅ Meta.ofJson?
      device := ← field? tree 6 "device" "" Json.asString? }
  else none

end Resource

end EdgeCatalog
