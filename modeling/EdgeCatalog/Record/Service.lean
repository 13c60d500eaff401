import EdgeCatalog.Record.Resource
import EdgeCatalog.Expiry
import EdgeCatalog.Id

/-! Service registrations. -/
namespace EdgeCatalog

open Record

/-- A registered service. -/
structure Service where
  id : String := ""
  type : String := ""
  name : String := ""
  description : String := ""
  metadata : Meta := ∅
  protocols : List Protocol := []
  representation : Meta := ∅
  /-- Seconds to live after the last update; a negative number means for ever. -/
  ttl : Int64 := 0
  created : Instant := .epoch
  updated : Instant := .epoch
  expires : Option Instant := none

namespace Service

/-- The fields in their order. -/
def outline : Json.Outline :=
  .record (wholes ["id", "type", "name", "description", "meta"]
    ++ [("protocols", .list Protocol.outline)]
    ++ wholes ["representation", "ttl", "created", "updated", "expires"])

/-- The expiry is left out when there is none. -/
def toJson (s : Service) : Json :=
  .object ([("created", ofInstant s.created), ("description", .string s.description)]
    ++ expiresField s.expires ++ [
    ("id", .string s.id),
    ("meta", s.metadata.toJson),
    ("name", .string s.name),
    ("protocols", .array (s.protocols.map Protocol.toJson)),
    ("representation", s.representation.toJson),
    ("ttl", .ofInt s.ttl.toInt),
    ("type", .string s.type),
    ("updated", ofInstant s.updated)])

def ofJson? (tree : Json) : Option Service :=
  if hasShape 11 tree then do
    return {
      id := ← field? tree 0 "id" "" Json.asString?
      type := ← field? tree 1 "type" "" Json.asString?
      name := ← field? tree 2 "name" "" Json.asString?
      description := ← field? tree 3 "description" "" Json.asString?
      metadata := ← field? tree 4 "meta" ∅ Meta.ofJson?
      protocols := ← field? tree 5 "protocols" [] (Json.asList? Protocol.ofJson?)
      representation := ← field? tree 6 "representation" ∅ Meta.ofJson?
      ttl := ← field? tree 7 "ttl" 0 int64?
      created := ← field? tree 8 "created" .epoch instant?
      updated := ← field? tree 9 "updated" .epoch instant?
      expires := ← field? tree 10 "expires" none optionalInstant? }
  else none

def check (s : Service) : Except Error Unit :=
  Id.checkRecord s.id

def isExpired (s : Service) (now : Instant) : Bool :=
  Expiry.isExpired s.ttl s.expires now

end Service

end EdgeCatalog
