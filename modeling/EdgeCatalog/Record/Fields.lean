import EdgeCatalog.Json.Draft
import EdgeCatalog.Instant.Text

/-! How records are read from trees. A record is an object, or a list of its fields in their order;
a field that is not given takes its default, and unknown fields are passed over. -/
namespace EdgeCatalog.Record

/-- Fields of which all is looked at. -/
def wholes (names : List String) : List (String × Json.Outline) :=
  names.map (·, .whole)

/-- Is the tree an object, or a list of at most `count` fields? -/
def hasShape (count : Nat) : Json → Bool
  | .object _ => true
  | .array items => items.length ≤ count
  | _ => false

/-- The values given for a field, by its name or by its place. -/
def given (tree : Json) (place : Nat) (name : String) : List Json :=
  match tree with
  | .object fields => (fields.filter (·.1 = name)).map Prod.snd
  | .array items => items[place]?.toList
  | _ => []

/-- Reads a field, which must not be given twice. -/
def field? {α : Type} (tree : Json) (place : Nat) (name : String) (default : α)
    (value? : Json → Option α) : Option α :=
  match given tree place name with
  | [] => some default
  | [value] => value? value
  | _ => none

def int64? (j : Json) : Option Int64 := do
  let n ← j.asInt?
  if -9223372036854775808 ≤ n ∧ n ≤ 9223372036854775807 then some (Int64.ofInt n) else none

def uint64? (j : Json) : Option UInt64 := do
  let n ← j.asInt?
  if 0 ≤ n ∧ n < UInt64.size then some (UInt64.ofNat n.toNat) else none

def instant? (j : Json) : Option Instant := do
  Instant.ofText? (← j.asString?)

/-- An instant that may be missing; `null` says so. -/
def optionalInstant? : Json → Option (Option Instant)
  | .null => some none
  | j => (instant? j).map some

def ofInstant (t : Instant) : Json :=
  .string t.text

/-- The field of an expiry, which is left out when there is none. -/
def expiresField (expires : Option Instant) : List (String × Json) :=
  match expires with
  | some expiry => [("expires", ofInstant expiry)]
  | none => []

end EdgeCatalog.Record
