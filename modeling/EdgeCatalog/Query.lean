import EdgeCatalog.Error
import EdgeCatalog.Text.Segments

/-! Queries: a path into a record, a relation between texts, and a text to compare with. Objects are
entered by key. An array takes no part of the path: it stands for its first element that can be
entered with the next key. -/
namespace EdgeCatalog

/-- A relation between the text found in a record and the text of a query. -/
inductive Relation
  | equals
  | startsWith
  | endsWith
  | contains
  deriving DecidableEq

namespace Relation

def name : Relation → String
  | .equals => "equals"
  | .startsWith => "prefix"
  | .endsWith => "suffix"
  | .contains => "contains"

def ofName (name : String) : Except Error Relation :=
  if name = "equals" then .ok .equals
  else if name = "prefix" then .ok .startsWith
  else if name = "suffix" then .ok .endsWith
  else if name = "contains" then .ok .contains
  else .error (.invalid (.unknownRelation name))

/-- Does the first list occur somewhere in the second? -/
def occursIn (part : List Char) : List Char → Bool
  | [] => part.isEmpty
  | c :: rest => part.isPrefixOf (c :: rest) || occursIn part rest

def holds (r : Relation) (candidate value : String) : Bool :=
  match r with
  | .equals => candidate = value
  | .startsWith => value.toList.isPrefixOf candidate.toList
  | .endsWith => value.toList.isSuffixOf candidate.toList
  | .contains => occursIn value.toList candidate.toList

end Relation

namespace Json

mutual

/-- Can the tree be entered with a key, looking through arrays? -/
def reaches (key : String) : Json → Bool
  | .object fields => (Entries.find? key fields).isSome
  | .array items => anyReaches key items
  | .null => false
  | .bool _ => false
  | .number _ => false
  | .string _ => false

def anyReaches (key : String) : List Json → Bool
  | [] => false
  | item :: rest => reaches key item || anyReaches key rest

end

mutual

/-- What a path leads to. -/
def resolve : Json → List String → Option Json
  | node, [] => some node
  | .object fields, key :: path => resolveField key path fields
  | .array items, key :: path => resolveItem key path items
  | .null, _ :: _ => none
  | .bool _, _ :: _ => none
  | .number _, _ :: _ => none
  | .string _, _ :: _ => none

/-- Goes on in the field with the key. -/
def resolveField (key : String) (path : List String) : List (String × Json) → Option Json
  | [] => none
  | (name, value) :: rest =>
    if name = key then resolve value path else resolveField key path rest

/-- Goes on in the first item that can be entered with the key, and in no other. -/
def resolveItem (key : String) (path : List String) : List Json → Option Json
  | [] => none
  | item :: rest =>
    if reaches key item then resolve item (key :: path) else resolveItem key path rest

end

end Json

/-- A path, a relation and a text. -/
structure Query where
  path : List String
  relation : Relation
  value : String
  deriving DecidableEq

namespace Query

/-- The path is cut at every point. -/
def parse (path relation value : String) : Except Error Query := do
  return { path := Text.segments '.' path, relation := ← Relation.ofName relation, value }

/-- A path that leads nowhere, or to `null`, is no match; one that leads to anything else that is
not a text is an error. -/
def eval (q : Query) (tree : Json) : Except Error Bool :=
  match tree.resolve q.path with
  | none => .ok false
  | some .null => .ok false
  | some (.string candidate) => .ok (q.relation.holds candidate q.value)
  | some other => .error (.invalid (.notText (Text.joinSegments '.' q.path) other.kind))

end Query

end EdgeCatalog
