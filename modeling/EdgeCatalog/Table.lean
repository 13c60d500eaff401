/-! Tables: finite maps from texts, kept as association lists with strictly ascending keys. The
order makes the representation unique, so two tables with the same lookups are equal
(`Table.ext_get?`). The operations on bare lists are also what the objects of a JSON tree use. -/
namespace EdgeCatalog

variable {α β : Type}

namespace Entries

def find? (key : String) : List (String × α) → Option α
  | [] => none
  | (k, v) :: rest => if k = key then some v else find? key rest

/-- Puts a binding into an ascending list, in place of an older one for the key. -/
def insert (key : String) (value : α) : List (String × α) → List (String × α)
  | [] => [(key, value)]
  | (k, v) :: rest =>
    if key < k then (key, value) :: (k, v) :: rest
    else if key = k then (key, value) :: rest
    else (k, v) :: insert key value rest

/-- Puts a binding into an ascending list unless the key has one. -/
def insertNew (key : String) (value : α) : List (String × α) → List (String × α)
  | [] => [(key, value)]
  | (k, v) :: rest =>
    if key < k then (key, value) :: (k, v) :: rest
    else if key = k then (k, v) :: rest
    else (k, v) :: insertNew key value rest

def erase (key : String) : List (String × α) → List (String × α)
  | [] => []
  | (k, v) :: rest => if k = key then rest else (k, v) :: erase key rest

/-- The keys go strictly upwards. -/
def Ascending (entries : List (String × α)) : Prop :=
  entries.Pairwise fun a b => a.1 < b.1

theorem lt_of_not_lt_of_ne {a b : String} (h : ¬a < b) (hne : a ≠ b) : b < a := by
  refine String.not_le.1 fun hle => hne ?_
  exact String.le_antisymm hle (String.not_lt.1 h)

theorem mem_insert {key : String} {value : α} {entries : List (String × α)} {e : String × α}
    (h : e ∈ insert key value entries) : e = (key, value) ∨ e ∈ entries := by
  induction entries with
  | nil => simpa [insert] using h
  | cons head rest ih =>
    obtain ⟨k, v⟩ := head
    simp only [insert] at h
    split at h
    · simpa using h
    · split at h
      · rcases List.mem_cons.1 h with h | h
        · exact .inl h
        · exact .inr (List.mem_cons_of_mem _ h)
      · rcases List.mem_cons.1 h with h | h
        · exact .inr (h ▸ List.mem_cons_self)
        · rcases ih h with h | h
          · exact .inl h
          · exact .inr (List.mem_cons_of_mem _ h)

theorem mem_insertNew {key : String} {value : α} {entries : List (String × α)} {e : String × α}
    (h : e ∈ insertNew key value entries) : e = (key, value) ∨ e ∈ entries := by
  induction entries with
  | nil => simpa [insertNew] using h
  | cons head rest ih =>
    obtain ⟨k, v⟩ := head
    simp only [insertNew] at h
    split at h
    · simpa using h
    · split at h
      · exact .inr h
      · rcases List.mem_cons.1 h with h | h
        · exact .inr (h ▸ List.mem_cons_self)
        · rcases ih h with h | h
          · exact .inl h
          · exact .inr (List.mem_cons_of_mem _ h)

theorem mem_of_mem_erase {key : String} {entries : List (String × α)} {e : String × α}
    (h : e ∈ erase key entries) : e ∈ entries := by
  induction entries with
  | nil => simp [erase] at h
  | cons head rest ih =>
    obtain ⟨k, v⟩ := head
    simp only [erase] at h
    split at h
    · exact List.mem_cons_of_mem _ h
    · rcases List.mem_cons.1 h with h | h
      · exact h ▸ List.mem_cons_self
      · exact List.mem_cons_of_mem _ (ih h)

theorem Ascending.insert {entries : List (String × α)} (h : Ascending entries) (key : String)
    (value : α) : Ascending (insert key value entries) := by
  induction entries with
  | nil => simp [Entries.insert, Ascending]
  | cons head rest ih =>
    obtain ⟨k, v⟩ := head
    obtain ⟨hhead, hrest⟩ := List.pairwise_cons.1 h
    simp only [Entries.insert]
    split
    · rename_i hlt
      refine List.pairwise_cons.2 ⟨fun e he => ?_, h⟩
      rcases List.mem_cons.1 he with rfl | he
      · exact hlt
      · exact String.lt_trans hlt (hhead e he)
    · rename_i hnlt
      split
      · rename_i heq
        subst heq
        exact List.pairwise_cons.2 ⟨hhead, hrest⟩
      · rename_i hne
        refine List.pairwise_cons.2 ⟨fun e he => ?_, ih hrest⟩
        rcases mem_insert he with rfl | he
        · exact lt_of_not_lt_of_ne hnlt hne
        · exact hhead e he

theorem Ascending.insertNew {entries : List (String × α)} (h : Ascending entries) (key : String)
    (value : α) : Ascending (insertNew key value entries) := by
  induction entries with
  | nil => simp [Entries.insertNew, Ascending]
  | cons head rest ih =>
    obtain ⟨k, v⟩ := head
    obtain ⟨hhead, hrest⟩ := List.pairwise_cons.1 h
    simp only [Entries.insertNew]
    split
    · rename_i hlt
      refine List.pairwise_cons.2 ⟨fun e he => ?_, h⟩
      rcases List.mem_cons.1 he with rfl | he
      · exact hlt
      · exact String.lt_trans hlt (hhead e he)
    · rename_i hnlt
      split
      · exact h
      · rename_i hne
        refine List.pairwise_cons.2 ⟨fun e he => ?_, ih hrest⟩
        rcases mem_insertNew he with rfl | he
        · exact lt_of_not_lt_of_ne hnlt hne
        · exact hhead e he

theorem Ascending.erase {entries : List (String × α)} (h : Ascending entries) (key : String) :
    Ascending (erase key entries) := by
  induction entries with
  | nil => exact h
  | cons head rest ih =>
    obtain ⟨k, v⟩ := head
    obtain ⟨hhead, hrest⟩ := List.pairwise_cons.1 h
    simp only [Entries.erase]
    split
    · exact hrest
    · exact List.pairwise_cons.2 ⟨fun e he => hhead e (mem_of_mem_erase he), ih hrest⟩

/-- A binding below all others goes to the front. -/
theorem insertNew_of_lt {key : String} {value : α} {entries : List (String × α)}
    (h : ∀ e ∈ entries, key < e.1) : insertNew key value entries = (key, value) :: entries := by
  cases entries with
  | nil => rfl
  | cons head rest => simp [insertNew, h head List.mem_cons_self]

theorem find?_eq_none {key : String} {entries : List (String × α)}
    (h : ∀ e ∈ entries, e.1 ≠ key) : find? key entries = none := by
  induction entries with
  | nil => rfl
  | cons head rest ih =>
    simp [find?, h head List.mem_cons_self, ih fun e he => h e (List.mem_cons_of_mem _ he)]

theorem find?_insert (key other : String) (value : α) (entries : List (String × α)) :
    find? other (insert key value entries) =
      if key = other then some value else find? other entries := by
  induction entries with
  | nil => simp [insert, find?]
  | cons head rest ih =>
    obtain ⟨k, v⟩ := head
    simp only [insert]
    split
    · simp [find?]
    · split
      · rename_i heq
        subst heq
        by_cases h : key = other <;> simp [find?, h]
      · rename_i hne
        by_cases hk : k = other
        · subst hk
          simp [find?, hne]
        · simp [find?, hk, ih]

theorem find?_erase {entries : List (String × α)} (h : Ascending entries) (key other : String) :
    find? other (erase key entries) = if key = other then none else find? other entries := by
  induction entries with
  | nil => simp [erase, find?]
  | cons head rest ih =>
    obtain ⟨k, v⟩ := head
    obtain ⟨hhead, hrest⟩ := List.pairwise_cons.1 h
    simp only [erase]
    split
    · rename_i heq
      subst heq
      by_cases ho : k = other
      · subst ho
        simpa using find?_eq_none fun e he hek =>
          String.lt_irrefl k (by simpa [hek] using hhead e he)
      · simp [find?, ho]
    · rename_i hne
      by_cases ho : k = other
      · subst ho
        simp [find?, Ne.symm hne]
      · simp [find?, ho, ih hrest]

theorem find?_eq_some_iff {entries : List (String × α)} (h : Ascending entries) {key : String}
    {value : α} : find? key entries = some value ↔ (key, value) ∈ entries := by
  induction entries with
  | nil => simp [find?]
  | cons head rest ih =>
    obtain ⟨k, v⟩ := head
    obtain ⟨hhead, hrest⟩ := List.pairwise_cons.1 h
    by_cases hk : k = key
    · subst hk
      constructor
      · intro heq
        simp_all [find?]
      · intro hmem
        rcases List.mem_cons.1 hmem with heq | hmem
        · simp_all [find?]
        · exact absurd (hhead _ hmem) (String.lt_irrefl k)
    · simp [find?, hk, ih hrest, Ne.symm hk]

/-- Ascending lists with the same lookups are the same list. -/
theorem ext_find? {a b : List (String × α)} (ha : Ascending a) (hb : Ascending b)
    (h : ∀ key, find? key a = find? key b) : a = b := by
  induction a generalizing b with
  | nil =>
    cases b with
    | nil => rfl
    | cons head rest => simpa [find?] using h head.1
  | cons head rest ih =>
    obtain ⟨k, v⟩ := head
    obtain ⟨hhead, hrest⟩ := List.pairwise_cons.1 ha
    cases b with
    | nil => simpa [find?] using h k
    | cons head' rest' =>
      obtain ⟨k', v'⟩ := head'
      obtain ⟨hhead', hrest'⟩ := List.pairwise_cons.1 hb
      have hk : k = k' := by
        have h1 := (find?_eq_some_iff hb).1 ((h k).symm.trans (by simp [find?] : _ = some v))
        have h2 := (find?_eq_some_iff ha).1 ((h k').trans (by simp [find?] : _ = some v'))
        rcases List.mem_cons.1 h1 with h1 | h1
        · exact congrArg Prod.fst h1
        · rcases List.mem_cons.1 h2 with h2 | h2
          · exact (congrArg Prod.fst h2).symm
          · exact absurd (hhead _ h2) (String.lt_asymm (hhead' _ h1))
      subst hk
      have hv : v = v' := by simpa [find?] using h k
      subst hv
      rw [ih hrest hrest' fun key => ?_]
      by_cases hkey : k = key
      · subst hkey
        rw [find?_eq_none fun e he hek => String.lt_irrefl k (by simpa [hek] using hhead e he),
          find?_eq_none fun e he hek => String.lt_irrefl k (by simpa [hek] using hhead' e he)]
      · simpa [find?, hkey] using h key

end Entries

/-- A finite map from texts to `α`. -/
structure Table (α : Type) where
  entries : List (String × α)
  ascending : Entries.Ascending entries

namespace Table

def empty : Table α :=
  ⟨[], List.Pairwise.nil⟩

instance : EmptyCollection (Table α) := ⟨empty⟩
instance : Inhabited (Table α) := ⟨empty⟩

def get? (t : Table α) (key : String) : Option α :=
  Entries.find? key t.entries

def contains (t : Table α) (key : String) : Bool :=
  (t.get? key).isSome

def insert (t : Table α) (key : String) (value : α) : Table α :=
  ⟨Entries.insert key value t.entries, t.ascending.insert key value⟩

def erase (t : Table α) (key : String) : Table α :=
  ⟨Entries.erase key t.entries, t.ascending.erase key⟩

def size (t : Table α) : Nat :=
  t.entries.length

def keys (t : Table α) : List String :=
  t.entries.map Prod.fst

def values (t : Table α) : List α :=
  t.entries.map Prod.snd

@[simp] theorem get?_empty (key : String) : (∅ : Table α).get? key = none := rfl

@[simp] theorem get?_insert (t : Table α) (key other : String) (value : α) :
    (t.insert key value).get? other = if key = other then some value else t.get? other :=
  Entries.find?_insert key other value t.entries

@[simp] theorem get?_erase (t : Table α) (key other : String) :
    (t.erase key).get? other = if key = other then none else t.get? other :=
  Entries.find?_erase t.ascending key other

theorem get?_eq_some_iff (t : Table α) {key : String} {value : α} :
    t.get? key = some value ↔ (key, value) ∈ t.entries :=
  Entries.find?_eq_some_iff t.ascending

/-- Lookups determine a table. -/
theorem ext_get? {a b : Table α} (h : ∀ key, a.get? key = b.get? key) : a = b := by
  cases a with
  | mk entries ascending =>
    cases b with
    | mk entries' ascending' =>
      have heq := Entries.ext_find? ascending ascending' h
      subst heq
      rfl

end Table

end EdgeCatalog
