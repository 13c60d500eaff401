import Mathlib
import EdgeCatalog.Query

/-! What paths lead to. Of arrays in arrays only the order of the objects in them counts: a key is
looked up in the first of these objects that has it, and the rest of the path is followed from
there, whatever the later objects hold. Hence a path is followed one part after the other. -/
namespace EdgeCatalog.Json

/-! ## Objects reached through arrays -/

mutual

/-- The objects that a tree stands for, from left to right: itself, or those in its items. -/
def objects : Json → List (List (String × Json))
  | .object fields => [fields]
  | .array items => objectsAmong items
  | .null => []
  | .bool _ => []
  | .number _ => []
  | .string _ => []

def objectsAmong : List Json → List (List (String × Json))
  | [] => []
  | item :: rest => objects item ++ objectsAmong rest

end

/-- What the first of the objects with a key has for it. -/
def field? (key : String) (found : List (List (String × Json))) : Option Json :=
  found.findSome? (Entries.find? key)

@[simp] theorem field?_nil (key : String) : field? key [] = none := rfl

@[simp] theorem field?_singleton (key : String) (fields : List (String × Json)) :
    field? key [fields] = Entries.find? key fields := by
  simp [field?]

@[simp] theorem field?_append (key : String) (found later : List (List (String × Json))) :
    field? key (found ++ later) = (field? key found).or (field? key later) := by
  simp [field?, List.findSome?_append]

/-! ## Entering a tree -/

mutual

/-- A tree can be entered with a key when one of its objects has the key. -/
theorem reaches_eq (key : String) (node : Json) :
    reaches key node = (field? key node.objects).isSome := by
  cases node with
  | object fields => simp [reaches, objects]
  | array items => rw [reaches, objects, anyReaches_eq]
  | null => rfl
  | bool b => rfl
  | number n => rfl
  | string s => rfl

theorem anyReaches_eq (key : String) (items : List Json) :
    anyReaches key items = (field? key (objectsAmong items)).isSome := by
  cases items with
  | nil => rfl
  | cons item rest =>
    simp [anyReaches, objectsAmong, reaches_eq key item, anyReaches_eq key rest]

end

theorem reaches_object (key : String) (fields : List (String × Json)) :
    reaches key (object fields) = decide (key ∈ fields.map Prod.fst) := by
  rw [reaches]
  induction fields with
  | nil => rfl
  | cons field rest ih =>
    rw [Entries.find?]
    by_cases hname : field.1 = key
    · simp [hname]
    · simp [hname, Ne.symm hname, ih]

theorem resolve_nil (node : Json) : node.resolve [] = some node := by
  cases node <;> rfl

theorem resolveField_eq (key : String) (path : List String) (fields : List (String × Json)) :
    resolveField key path fields = (Entries.find? key fields).bind (·.resolve path) := by
  induction fields with
  | nil => rfl
  | cons field rest ih =>
    obtain ⟨name, value⟩ := field
    by_cases hname : name = key
    · simp [resolveField, Entries.find?, hname]
    · simp [resolveField, Entries.find?, hname, ih]

mutual

/-- A path goes on from what the first of the objects with its key has for it. -/
theorem resolve_cons (key : String) (path : List String) (node : Json) :
    node.resolve (key :: path) = (field? key node.objects).bind (·.resolve path) := by
  cases node with
  | object fields => rw [resolve, objects, resolveField_eq, field?_singleton]
  | array items => rw [resolve, objects, resolveItem_eq]
  | null => rfl
  | bool b => rfl
  | number n => rfl
  | string s => rfl

/-- The item that is chosen is the one with the first of the objects that has the key. -/
theorem resolveItem_eq (key : String) (path : List String) (items : List Json) :
    resolveItem key path items = (field? key (objectsAmong items)).bind (·.resolve path) := by
  cases items with
  | nil => rfl
  | cons item rest =>
    rw [resolveItem, objectsAmong, field?_append, reaches_eq, resolve_cons key path item,
      resolveItem_eq key path rest]
    cases field? key item.objects with
    | none => rfl
    | some child => rfl

end

/-- The empty path leads to the tree itself. Any other goes on, with one key less, from what the
first of the objects with its first key has for it, and nowhere if none has the key; whether a
later one would lead further does not matter. -/
theorem resolve_first (node : Json) :
    node.resolve [] = some node ∧
      ∀ key path,
        (∀ before fields after child, node.objects = before ++ fields :: after →
          (∀ earlier ∈ before, Entries.find? key earlier = none) →
          Entries.find? key fields = some child →
          node.resolve (key :: path) = child.resolve path) ∧
        ((∀ fields ∈ node.objects, Entries.find? key fields = none) →
          node.resolve (key :: path) = none) := by
  refine ⟨resolve_nil node, fun key path => ⟨?_, ?_⟩⟩
  · intro before fields after child hobjects hbefore hfields
    have hfirst : field? key node.objects = some child :=
      List.findSome?_eq_some_iff.mpr ⟨before, fields, after, hobjects, hfields, hbefore⟩
    rw [resolve_cons, hfirst, Option.bind_some]
  · intro hnone
    have habsent : field? key node.objects = none := List.findSome?_eq_none_iff.mpr hnone
    rw [resolve_cons, habsent, Option.bind_none]

/-- A text that cannot be entered, before an object that could be: the path leads nowhere. -/
theorem resolve_first_text :
    let later := object [("b", string "y")]
    let node := array [array [object [("a", string "x")]], object [("a", later)]]
    node.objects = [] ++ [("a", string "x")] :: [[("a", later)]] ∧
      node.resolve ["a", "b"] = none ∧ later.resolve ["b"] = some (string "y") ∧
      node.resolve ["c"] = none := by
  intro later node
  have hobjects : node.objects = [] ++ [("a", string "x")] :: [[("a", later)]] := rfl
  obtain ⟨hfirst, -⟩ := (resolve_first node).2 "a" ["b"]
  obtain ⟨-, hnone⟩ := (resolve_first node).2 "c" []
  refine ⟨hobjects, ?_, rfl, hnone ?_⟩
  · exact hfirst [] [("a", string "x")] [[("a", later)]] (string "x") hobjects nofun rfl
  · intro fields hin
    rcases List.mem_pair.mp hin with rfl | rfl
    · rfl
    · rfl

/-! ## Arrays -/

theorem anyReaches_iff {key : String} {items : List Json} :
    anyReaches key items = true ↔ ∃ item ∈ items, reaches key item = true := by
  induction items with
  | nil => simp [anyReaches]
  | cons item rest ih => simp [anyReaches, ih]

theorem resolve_of_not_reaches {key : String} {node : Json} (h : ¬reaches key node = true)
    (path : List String) : node.resolve (key :: path) = none := by
  rw [reaches_eq, Option.not_isSome_iff_eq_none] at h
  rw [resolve_cons, h, Option.bind_none]

/-- The first item speaks for an array, provided that it has every key that a later one has. -/
theorem resolve_array_cons {first : Json} {rest : List Json} {key : String}
    (h : ∀ item ∈ rest, reaches key item = true → reaches key first = true) (path : List String) :
    (array (first :: rest)).resolve (key :: path) = first.resolve (key :: path) := by
  rw [resolve, resolveItem]
  by_cases hfirst : reaches key first = true
  · rw [if_pos hfirst]
  · have hrest : ¬reaches key (array rest) = true := by
      rw [reaches, anyReaches_iff]
      rintro ⟨item, hitem, hreaches⟩
      exact hfirst (h item hitem hreaches)
    rw [if_neg hfirst, resolve_of_not_reaches hfirst]
    exact resolve_of_not_reaches hrest path

/-! ## Paths in parts -/

theorem resolve_singleton (key : String) (node : Json) :
    node.resolve [key] = field? key node.objects := by
  rw [resolve_cons]
  cases field? key node.objects with
  | none => rfl
  | some child => exact resolve_nil child

theorem resolve_append (node : Json) (p q : List String) :
    node.resolve (p ++ q) = (node.resolve p).bind (·.resolve q) := by
  induction p generalizing node with
  | nil => rw [List.nil_append, resolve_nil, Option.bind_some]
  | cons key path ih =>
    rw [List.cons_append, resolve_cons, resolve_cons, Option.bind_assoc]
    exact Option.bind_congr fun child _ => ih child

/-- A path is followed one part after the other, so that it leads nowhere once a part of it does;
and a tree can be entered with a key exactly when the key alone leads somewhere. -/
theorem paths_compose (node : Json) (p q : List String) :
    node.resolve (p ++ q) = (node.resolve p).bind (·.resolve q) ∧
      (∀ longer, p <+: longer → node.resolve p = none → node.resolve longer = none) ∧
      ∀ key, reaches key node = true ↔ (node.resolve [key]).isSome = true := by
  refine ⟨resolve_append node p q, ?_, fun key => ?_⟩
  · rintro _ ⟨rest, rfl⟩ habsent
    rw [resolve_append, habsent, Option.bind_none]
  · rw [reaches_eq, resolve_singleton]

/-- A prefix that leads nowhere, and a key that is reached through an array and leads to `null`. -/
theorem paths_compose_absent :
    let node := array [array [], array [object [("a", string "x")]], object [("b", null)]]
    node.resolve ["a", "b"] = none ∧ node.resolve ["a", "b", "c"] = none ∧
      reaches "b" node = true := by
  intro node
  obtain ⟨-, habsent, hreaches⟩ := paths_compose node ["a", "b"] ["c"]
  refine ⟨rfl, ?_, (hreaches "b").mpr rfl⟩
  exact habsent ["a", "b", "c"] ⟨["c"], rfl⟩ rfl

end EdgeCatalog.Json
