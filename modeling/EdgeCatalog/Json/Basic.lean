import EdgeCatalog.Table

/-! JSON trees. A tree as read keeps its fields in the order of the text, repetitions included; its
canonical form has the fields of every object in ascending key order, and of several fields with
one name the last. -/
namespace EdgeCatalog

/-- A whole number, or a 64-bit float given by its bits. -/
inductive Number
  | int (value : Int)
  | double (bits : UInt64)
  deriving DecidableEq

inductive Json
  | null
  | bool (value : Bool)
  | number (value : Number)
  | string (value : String)
  | array (items : List Json)
  | object (fields : List (String × Json))

namespace Json

instance : Inhabited Json := ⟨null⟩

mutual

/-- Every object in ascending key order, the last field of a name taken. -/
def canonical : Json → Json
  | .array items => .array (canonicalItems items)
  | .object fields => .object (canonicalFields fields)
  | .null => .null
  | .bool b => .bool b
  | .number n => .number n
  | .string s => .string s

def canonicalItems : List Json → List Json
  | [] => []
  | item :: rest => canonical item :: canonicalItems rest

def canonicalFields : List (String × Json) → List (String × Json)
  | [] => []
  | (name, value) :: rest => Entries.insertNew name (canonical value) (canonicalFields rest)

end

mutual

/-- Is every object in ascending key order, without repetitions? -/
def IsCanonical : Json → Prop
  | .array items => AllCanonical items
  | .object fields => FieldsCanonical fields
  | .null => True
  | .bool _ => True
  | .number _ => True
  | .string _ => True

def AllCanonical : List Json → Prop
  | [] => True
  | item :: rest => IsCanonical item ∧ AllCanonical rest

def FieldsCanonical : List (String × Json) → Prop
  | [] => True
  | (name, value) :: rest =>
    IsCanonical value ∧ (∀ field ∈ rest, name < field.1) ∧ FieldsCanonical rest

end

theorem FieldsCanonical.insertNew {fields : List (String × Json)} (h : FieldsCanonical fields)
    (name : String) {value : Json} (hv : IsCanonical value) :
    FieldsCanonical (Entries.insertNew name value fields) := by
  induction fields with
  | nil => simp [Entries.insertNew, FieldsCanonical, hv]
  | cons head rest ih =>
    obtain ⟨k, v⟩ := head
    obtain ⟨hhead, hlt, hrest⟩ := h
    simp only [Entries.insertNew]
    split
    · rename_i hnk
      refine ⟨hv, fun field hf => ?_, hhead, hlt, hrest⟩
      rcases List.mem_cons.1 hf with rfl | hf
      · exact hnk
      · exact String.lt_trans hnk (hlt field hf)
    · rename_i hnk
      split
      · exact ⟨hhead, hlt, hrest⟩
      · rename_i hne
        refine ⟨hhead, fun field hf => ?_, ih hrest⟩
        rcases Entries.mem_insertNew hf with rfl | hf
        · exact Entries.lt_of_not_lt_of_ne hnk hne
        · exact hlt field hf

mutual

theorem isCanonical_canonical (j : Json) : IsCanonical (canonical j) := by
  cases j with
  | array items => exact allCanonical_canonicalItems items
  | object fields => exact fieldsCanonical_canonicalFields fields
  | null => trivial
  | bool b => trivial
  | number n => trivial
  | string s => trivial

theorem allCanonical_canonicalItems (items : List Json) : AllCanonical (canonicalItems items) := by
  cases items with
  | nil => trivial
  | cons item rest => exact ⟨isCanonical_canonical item, allCanonical_canonicalItems rest⟩

theorem fieldsCanonical_canonicalFields (fields : List (String × Json)) :
    FieldsCanonical (canonicalFields fields) := by
  cases fields with
  | nil => trivial
  | cons field rest =>
    obtain ⟨name, value⟩ := field
    exact (fieldsCanonical_canonicalFields rest).insertNew name (isCanonical_canonical value)

end

mutual

/-- A canonical tree is its own canonical form. -/
theorem canonical_of_isCanonical (j : Json) (h : IsCanonical j) : canonical j = j := by
  cases j with
  | array items => exact congrArg _ (canonicalItems_of_allCanonical items h)
  | object fields => exact congrArg _ (canonicalFields_of_fieldsCanonical fields h)
  | null => rfl
  | bool b => rfl
  | number n => rfl
  | string s => rfl

theorem canonicalItems_of_allCanonical (items : List Json) (h : AllCanonical items) :
    canonicalItems items = items := by
  cases items with
  | nil => rfl
  | cons item rest =>
    rw [canonicalItems, canonical_of_isCanonical item h.1, canonicalItems_of_allCanonical rest h.2]

theorem canonicalFields_of_fieldsCanonical (fields : List (String × Json))
    (h : FieldsCanonical fields) : canonicalFields fields = fields := by
  cases fields with
  | nil => rfl
  | cons field rest =>
    obtain ⟨name, value⟩ := field
    rw [canonicalFields, canonical_of_isCanonical value h.1,
      canonicalFields_of_fieldsCanonical rest h.2.2, Entries.insertNew_of_lt h.2.1]

end

/-- The kind of a value, as a message names it. -/
inductive Kind
  | null
  | bool
  | number
  | string
  | array
  | object
  deriving DecidableEq

def kind : Json → Kind
  | .null => .null
  | .bool _ => .bool
  | .number _ => .number
  | .string _ => .string
  | .array _ => .array
  | .object _ => .object

def Kind.name : Kind → String
  | .null => "null"
  | .bool => "bool"
  | .number => "number"
  | .string => "string"
  | .array => "array"
  | .object => "object"

/-! ## Reading a value of a known type -/

def asBool? : Json → Option Bool
  | .bool b => some b
  | _ => none

def asString? : Json → Option String
  | .string s => some s
  | _ => none

/-- A whole number, written without fraction or exponent. -/
def asInt? : Json → Option Int
  | .number (.int n) => some n
  | _ => none

def asArray? : Json → Option (List Json)
  | .array items => some items
  | _ => none

/-- A list whose items are all of a known type. -/
def asList? {α : Type} (item? : Json → Option α) (j : Json) : Option (List α) := do
  (← j.asArray?).mapM item?

/-- The field of an object. -/
def get? : Json → String → Option Json
  | .object fields, name => Entries.find? name fields
  | _, _ => none

/-! ## Writing -/

def ofInt (n : Int) : Json :=
  .number (.int n)

def ofNat (n : Nat) : Json :=
  .number (.int n)

def ofStrings (texts : List String) : Json :=
  .array (texts.map .string)

end Json

/-- The fields of an object that the catalog carries along without looking at them. -/
structure Meta where
  fields : List (String × Json)
  canonical : Json.FieldsCanonical fields

namespace Meta

def empty : Meta :=
  ⟨[], trivial⟩

instance : EmptyCollection Meta := ⟨empty⟩
instance : Inhabited Meta := ⟨empty⟩

def ofFields (fields : List (String × Json)) : Meta :=
  ⟨Json.canonicalFields fields, Json.fieldsCanonical_canonicalFields fields⟩

def toJson (m : Meta) : Json :=
  .object m.fields

def ofJson? : Json → Option Meta
  | .object fields => some (ofFields fields)
  | _ => none

@[simp] theorem ofJson?_toJson (m : Meta) : ofJson? m.toJson = some m := by
  cases m with
  | mk fields canonical =>
    simp [ofJson?, toJson, ofFields, Json.canonicalFields_of_fieldsCanonical fields canonical]

end Meta

end EdgeCatalog
