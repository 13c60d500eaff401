import Mathlib
import EdgeCatalog.Table

/-! Tables as finite maps: their keys, a function applied to every value, a selection of the
bindings, what is found after many bindings were put in or taken out, and how many there are. -/
namespace EdgeCatalog

variable {α β : Type}

namespace Table

/-! ## Keys and values -/

theorem pairwise_keys (t : Table α) : t.keys.Pairwise (· < ·) :=
  List.pairwise_map.mpr t.ascending

theorem nodup_keys (t : Table α) : t.keys.Nodup :=
  t.pairwise_keys.imp fun h => ne_of_lt h

theorem contains_iff {t : Table α} {key : String} :
    t.contains key = true ↔ ∃ value, t.get? key = some value :=
  Option.isSome_iff_exists

theorem mem_keys_iff {t : Table α} {key : String} : key ∈ t.keys ↔ t.contains key = true := by
  rw [contains_iff, keys, List.mem_map]
  constructor
  · rintro ⟨⟨k, value⟩, he, rfl⟩
    exact ⟨value, t.get?_eq_some_iff.mpr he⟩
  · rintro ⟨value, h⟩
    exact ⟨(key, value), t.get?_eq_some_iff.mp h, rfl⟩

theorem mem_keys_of_get? {t : Table α} {key : String} {value : α} (h : t.get? key = some value) :
    key ∈ t.keys :=
  mem_keys_iff.mpr (contains_iff.mpr ⟨value, h⟩)

theorem mem_values_iff {t : Table α} {value : α} :
    value ∈ t.values ↔ ∃ key, t.get? key = some value := by
  rw [values, List.mem_map]
  constructor
  · rintro ⟨⟨key, v⟩, he, rfl⟩
    exact ⟨key, t.get?_eq_some_iff.mpr he⟩
  · rintro ⟨key, h⟩
    exact ⟨(key, value), t.get?_eq_some_iff.mp h, rfl⟩

theorem length_values (t : Table α) : t.values.length = t.size :=
  List.length_map _

/-- Values that carry their key are in the order of the keys. -/
theorem map_values_eq_keys (t : Table α) {keyOf : α → String}
    (h : ∀ {key value}, t.get? key = some value → keyOf value = key) :
    t.values.map keyOf = t.keys := by
  rw [values, keys, List.map_map]
  refine List.map_congr_left fun e he => ?_
  exact h (t.get?_eq_some_iff.mpr he)

theorem filterMap_get?_keys (t : Table α) : t.keys.filterMap t.get? = t.values := by
  rw [keys, values, List.filterMap_map, ← List.filterMap_eq_map]
  refine List.filterMap_congr fun e he => ?_
  exact t.get?_eq_some_iff.mpr he

/-! ## A function applied to every value -/

def map (f : α → β) (t : Table α) : Table β :=
  ⟨t.entries.map fun e => (e.1, f e.2), by
    rw [Entries.Ascending, List.pairwise_map]
    exact t.ascending⟩

@[simp] theorem get?_map (f : α → β) (t : Table α) (key : String) :
    (t.map f).get? key = (t.get? key).map f := by
  have hfind : ∀ entries : List (String × α),
      Entries.find? key (entries.map fun e => (e.1, f e.2)) = (Entries.find? key entries).map f := by
    intro entries
    induction entries with
    | nil => rfl
    | cons e rest ih =>
      rw [List.map_cons, Entries.find?, Entries.find?, ih]
      split <;> rfl
  exact hfind t.entries

@[simp] theorem keys_map (f : α → β) (t : Table α) : (t.map f).keys = t.keys := by
  simp [keys, map, Function.comp_def]

@[simp] theorem values_map (f : α → β) (t : Table α) : (t.map f).values = t.values.map f := by
  simp [values, map, Function.comp_def]

@[simp] theorem size_map (f : α → β) (t : Table α) : (t.map f).size = t.size := by
  simp [size, map]

@[simp] theorem contains_map (f : α → β) (t : Table α) (key : String) :
    (t.map f).contains key = t.contains key := by
  simp [contains]

theorem map_insert (f : α → β) (t : Table α) (key : String) (value : α) :
    (t.insert key value).map f = (t.map f).insert key (f value) := by
  refine ext_get? fun other => ?_
  rw [get?_map, get?_insert, get?_insert, get?_map]
  split <;> rfl

/-! ## A binding in place of another -/

theorem insert_erase (t : Table α) (key : String) (value : α) :
    (t.erase key).insert key value = t.insert key value := by
  refine ext_get? fun other => ?_
  rw [get?_insert, get?_insert, get?_erase]
  split <;> rfl

theorem insert_of_get? {t : Table α} {key : String} {value : α} (h : t.get? key = some value) :
    t.insert key value = t := by
  refine ext_get? fun other => ?_
  rw [get?_insert]
  split
  · rename_i hkey
    rw [← hkey, h]
  · rfl

/-- A value in place of one that a function cannot tell from it. -/
theorem map_insert_of_eq {f : α → β} {t : Table α} {key : String} {old value : α}
    (hold : t.get? key = some old) (h : f value = f old) : (t.insert key value).map f = t.map f := by
  rw [map_insert, h]
  refine insert_of_get? ?_
  rw [get?_map, hold, Option.map_some]

theorem keys_insert_of_get? {t : Table α} {key : String} {old : α} (hold : t.get? key = some old)
    (value : α) : (t.insert key value).keys = t.keys := by
  have hsame : (t.insert key value).map (fun _ => ()) = t.map fun _ => () :=
    map_insert_of_eq hold rfl
  rw [← keys_map fun _ => (), hsame, keys_map]

/-! ## A selection of the bindings -/

def filter (keep : α → Bool) (t : Table α) : Table α :=
  ⟨t.entries.filter fun e => keep e.2, t.ascending.filter _⟩

@[simp] theorem get?_filter (keep : α → Bool) (t : Table α) (key : String) :
    (t.filter keep).get? key = (t.get? key).filter keep := by
  ext value
  rw [get?_eq_some_iff, Option.filter_eq_some_iff, get?_eq_some_iff]
  exact List.mem_filter

theorem filter_filter (keep keep' : α → Bool) (t : Table α) :
    (t.filter keep).filter keep' = t.filter fun value => keep value && keep' value := by
  refine ext_get? fun key => ?_
  rw [get?_filter, get?_filter, get?_filter, Option.filter_filter]

theorem size_filter (keep : α → Bool) (t : Table α) :
    (t.filter keep).size = (t.values.filter keep).length := by
  rw [values, List.filter_map, List.length_map]
  rfl

/-! ## Many bindings at once -/

theorem get?_foldl_erase (keys : List String) (t : Table α) (key : String) :
    (keys.foldl erase t).get? key = if key ∈ keys then none else t.get? key := by
  induction keys generalizing t with
  | nil => simp
  | cons k rest ih =>
    rw [List.foldl_cons, ih, get?_erase]
    by_cases hr : key ∈ rest
    · rw [if_pos hr, if_pos (List.mem_cons_of_mem k hr)]
    · by_cases hk : k = key
      · rw [if_neg hr, if_pos hk, if_pos (by simp [hk])]
      · rw [if_neg hr, if_neg hk, if_neg (by simp [hr, Ne.symm hk])]

theorem foldl_erase_perm {keys keys' : List String} (h : keys.Perm keys') (t : Table α) :
    keys.foldl erase t = keys'.foldl erase t := by
  refine ext_get? fun key => ?_
  rw [get?_foldl_erase, get?_foldl_erase]
  exact if_congr h.mem_iff rfl rfl

/-- Erasing the keys of some values, which the values name themselves, leaves the other values. -/
theorem foldl_erase_filter {keyOf : α → String} {t : Table α}
    (hkey : ∀ {key value}, t.get? key = some value → keyOf value = key) (gone : α → Bool) :
    ((t.values.filter gone).map keyOf).foldl erase t = t.filter fun value => !gone value := by
  refine ext_get? fun key => ?_
  have hmem : key ∈ (t.values.filter gone).map keyOf ↔
      ∃ value, t.get? key = some value ∧ gone value = true := by
    rw [List.mem_map]
    constructor
    · rintro ⟨value, hvalue, rfl⟩
      obtain ⟨hin, hgone⟩ := List.mem_filter.mp hvalue
      obtain ⟨other, hother⟩ := mem_values_iff.mp hin
      exact ⟨value, by rw [hkey hother, hother], hgone⟩
    · rintro ⟨value, hvalue, hgone⟩
      exact ⟨value, List.mem_filter.mpr ⟨mem_values_iff.mpr ⟨key, hvalue⟩, hgone⟩, hkey hvalue⟩
  rw [get?_foldl_erase, get?_filter]
  cases hvalue : t.get? key with
  | none =>
    rw [Option.filter_none, ite_self]
  | some value =>
    rw [hvalue] at hmem
    by_cases hgone : gone value = true
    · rw [if_pos (hmem.mpr ⟨value, rfl, hgone⟩), Option.filter_some_neg (by simp [hgone])]
    · rw [if_neg fun hin => ?_, Option.filter_some_pos (by simp [hgone])]
      obtain ⟨other, hother, hin⟩ := hmem.mp hin
      exact hgone (Option.some.inj hother ▸ hin)

/-- Keys that are not put in keep their binding. -/
theorem get?_foldl_insert_of_notMem {keyOf : α → String} {values : List α} {key : String}
    (h : key ∉ values.map keyOf) (t : Table α) :
    (values.foldl (fun t v => t.insert (keyOf v) v) t).get? key = t.get? key := by
  induction values generalizing t with
  | nil => rfl
  | cons v rest ih =>
    rw [List.map_cons, List.mem_cons, not_or] at h
    rw [List.foldl_cons, ih h.2, get?_insert, if_neg (Ne.symm h.1)]

/-- Of values with distinct keys, each is found under its own. -/
theorem get?_foldl_insert_of_mem {keyOf : α → String} {values : List α} {value : α}
    (hd : (values.map keyOf).Nodup) (h : value ∈ values) (t : Table α) :
    (values.foldl (fun t v => t.insert (keyOf v) v) t).get? (keyOf value) = some value := by
  induction values generalizing t with
  | nil => exact absurd h List.not_mem_nil
  | cons v rest ih =>
    obtain ⟨hv, hrest⟩ := List.nodup_cons.mp hd
    rw [List.foldl_cons]
    rcases List.mem_cons.mp h with rfl | h
    · rw [get?_foldl_insert_of_notMem hv, get?_insert, if_pos rfl]
    · exact ih hrest h _

/-! ## How many bindings there are -/

theorem size_eq_card (t : Table α) : t.size = t.keys.toFinset.card := by
  rw [List.toFinset_card_of_nodup t.nodup_keys, keys, List.length_map, size]

theorem toFinset_keys_insert (t : Table α) (key : String) (value : α) :
    (t.insert key value).keys.toFinset = Insert.insert key t.keys.toFinset := by
  ext other
  rw [Finset.mem_insert, List.mem_toFinset, List.mem_toFinset, mem_keys_iff, mem_keys_iff, contains,
    contains, get?_insert]
  by_cases h : key = other
  · simp [h]
  · simp [h, Ne.symm h]

theorem toFinset_keys_erase (t : Table α) (key : String) :
    (t.erase key).keys.toFinset = t.keys.toFinset.erase key := by
  ext other
  rw [Finset.mem_erase, List.mem_toFinset, List.mem_toFinset, mem_keys_iff, mem_keys_iff, contains,
    contains, get?_erase]
  by_cases h : key = other
  · simp [h]
  · simp [h, Ne.symm h]

theorem size_insert_of_new {t : Table α} {key : String} (h : t.contains key = false) (value : α) :
    (t.insert key value).size = t.size + 1 := by
  have hkey : key ∉ t.keys.toFinset := by
    rw [List.mem_toFinset, mem_keys_iff, h]
    exact Bool.false_ne_true
  rw [size_eq_card, size_eq_card, toFinset_keys_insert, Finset.card_insert_of_notMem hkey]

theorem size_insert_of_contains {t : Table α} {key : String} (h : t.contains key = true)
    (value : α) : (t.insert key value).size = t.size := by
  have hkey : key ∈ t.keys.toFinset := List.mem_toFinset.mpr (mem_keys_iff.mpr h)
  rw [size_eq_card, size_eq_card, toFinset_keys_insert, Finset.insert_eq_of_mem hkey]

theorem size_erase_of_contains {t : Table α} {key : String} (h : t.contains key = true) :
    (t.erase key).size + 1 = t.size := by
  have hkey : key ∈ t.keys.toFinset := List.mem_toFinset.mpr (mem_keys_iff.mpr h)
  rw [size_eq_card, size_eq_card, toFinset_keys_erase, Finset.card_erase_add_one hkey]

/-- A selection and what it passes over make up the table. -/
theorem size_filter_add_size_filter_not (keep : α → Bool) (t : Table α) :
    (t.filter keep).size + (t.filter fun value => !keep value).size = t.size := by
  rw [size_filter, size_filter, ← List.length_eq_length_filter_add, length_values]

end Table

end EdgeCatalog
