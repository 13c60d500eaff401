import EdgeCatalog.Json.Basic

/-! JSON as it stands in a text, and what of it is looked at. A part that nobody looks at only has to
be well formed: its numbers may be beyond all range, its strings may hold half of a surrogate pair,
and it may be nested to any depth. -/
namespace EdgeCatalog.Json

/-- A tree as written. A number beyond the range of a float, and a string with half of a surrogate
pair, have no value. -/
inductive Draft
  | null
  | bool (value : Bool)
  | number (value : Option Number)
  | string (value : Option String)
  | array (items : List Draft)
  | object (fields : List (Option String × Draft))

instance : Inhabited Draft := ⟨.null⟩

/-- What is looked at in a tree: all of it, the items of a list, or the fields of a record, which may
also be given as a list in their order. -/
inductive Outline
  | whole
  | list (item : Outline)
  | record (fields : List (String × Outline))

namespace Outline

instance : Inhabited Outline := ⟨whole⟩

/-- What is looked at in the item at a place; `none` where no item may be. -/
def item? : Outline → Nat → Option Outline
  | .whole, _ => some .whole
  | .list item, _ => some item
  | .record fields, place => fields[place]?.map Prod.snd

/-- What is looked at in a field; `none` for a field that is passed over. -/
def field? : Outline → String → Option Outline
  | .record fields, name => fields.lookup name
  | .whole, _ => some .whole
  | .list _, _ => some .whole

end Outline

namespace Draft

mutual

/-- The value of what is looked at, in which arrays and objects may be nested `depth` levels deep. -/
def view? (outline : Outline) (depth : Nat) : Draft → Option Json
  | .null => some .null
  | .bool b => some (.bool b)
  | .number value => value.map .number
  | .string value => value.map .string
  | .array items =>
    if depth = 0 then none
    else (viewItems? outline.item? 0 (depth - 1) items).map .array
  | .object fields =>
    if depth = 0 then none
    else (viewFields? outline.field? (depth - 1) fields).map .object

def viewItems? (outline : Nat → Option Outline) (place depth : Nat) :
    List Draft → Option (List Json)
  | [] => some []
  | item :: rest =>
    match outline place with
    | none => none
    | some here =>
      match item.view? here depth, viewItems? outline (place + 1) depth rest with
      | some item, some rest => some (item :: rest)
      | _, _ => none

/-- Fields that are passed over are left out; the name of every field has a value. -/
def viewFields? (outline : String → Option Outline) (depth : Nat) :
    List (Option String × Draft) → Option (List (String × Json))
  | [] => some []
  | (none, _) :: _ => none
  | (some name, value) :: rest =>
    match outline name with
    | none => viewFields? outline depth rest
    | some here =>
      match value.view? here depth, viewFields? outline depth rest with
      | some value, some rest => some ((name, value) :: rest)
      | _, _ => none

end

end Draft

end EdgeCatalog.Json
