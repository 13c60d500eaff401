import Mathlib
import EdgeCatalog.Proofs.Query
import EdgeCatalog.Proofs.Table
import EdgeCatalog.Proofs.Text.Order

/-! All records, in the order of their ids, and what going through them comes to. A selection takes in
every record, so one that the query cannot be put to spoils it, wherever it stands; the first such
record says how. A search that is put to the same records finds the first of those selected. -/
namespace EdgeCatalog

variable {α : Type}

/-- All that can be read back under ids, in the order of the ids, byte by byte. -/
structure Lists (read : String → Except Error α) (idOf : α → String) (records : List α) : Prop where
  mem_iff : ∀ x, x ∈ records ↔ read (idOf x) = .ok x
  id_eq : ∀ id x, read id = .ok x → idOf x = id
  ascending : records.Pairwise fun a b => Text.bytes (idOf a) < Text.bytes (idOf b)

/-- Whoever reads a table of records that are under their ids reads its values. -/
theorem Table.lists {t : Table α} {read : String → Except Error α} {idOf : α → String}
    (hread : ∀ {id x}, read id = .ok x ↔ t.get? id = some x)
    (hid : ∀ {id x}, t.get? id = some x → idOf x = id) : Lists read idOf t.values where
  mem_iff x := by
    rw [mem_values_iff, hread]
    constructor
    · rintro ⟨id, hx⟩
      obtain rfl := hid hx
      exact hx
    · exact fun hx => ⟨idOf x, hx⟩
  id_eq id x hx := hid (hread.mp hx)
  ascending := by
    have hkeys : (t.values.map idOf).Pairwise (· < ·) := by
      rw [t.map_values_eq_keys hid]
      exact t.pairwise_keys
    exact (List.pairwise_map.mp hkeys).imp Text.bytes_lt_bytes_iff.mpr

namespace Query

variable {β : Type} {q : Query} {tree : α → Json} {records before after : List α} {x : α}
  {cause : Missing} {e : Error}

/-- An answer that fails just when the query cannot be put to some record, and then fails as the
query does for the first of these. -/
structure Stops (q : Query) (tree : α → Json) (records : List α) (answer : Except Error β) :
    Prop where
  fails_iff : (∃ e, answer = .error e) ↔ ∃ x ∈ records, ∃ e, q.eval (tree x) = .error e
  first : ∀ before x after e, records = before ++ x :: after →
    (∀ y ∈ before, ∃ hit, q.eval (tree y) = .ok hit) → q.eval (tree x) = .error e →
    answer = .error e

theorem select_of_forall (h : ∀ x ∈ records, ∃ hit, q.eval (tree x) = .ok hit) :
    q.select tree records = .ok (records.filter fun x => q.hits (tree x)) := by
  induction records with
  | nil => rfl
  | cons x rest ih =>
    obtain ⟨⟨hit, hx⟩, hrest⟩ := List.forall_mem_cons.mp h
    rw [select, hx, ih hrest, List.filter_cons, hits_of_eval hx]
    rfl

/-- The first record that the query cannot be put to. -/
theorem exists_first_fault (h : ∃ x ∈ records, ∃ e, q.eval (tree x) = .error e) :
    ∃ before x after e, records = before ++ x :: after ∧
      (∀ y ∈ before, ∃ hit, q.eval (tree y) = .ok hit) ∧ q.eval (tree x) = .error e := by
  induction records with
  | nil =>
    obtain ⟨x, hx, -⟩ := h
    exact absurd hx List.not_mem_nil
  | cons y rest ih =>
    cases hy : q.eval (tree y) with
    | error e => exact ⟨[], y, rest, e, rfl, fun _ hin => absurd hin List.not_mem_nil, hy⟩
    | ok hit =>
      obtain ⟨x, hx, e, he⟩ := h
      have hrest : x ∈ rest := by
        refine (List.mem_cons.mp hx).resolve_left fun hxy => ?_
        rw [hxy, hy] at he
        cases he
      obtain ⟨before, x, after, e, rfl, hbefore, hfault⟩ := ih ⟨x, hrest, e, he⟩
      exact ⟨y :: before, x, after, e, rfl, List.forall_mem_cons.mpr ⟨⟨hit, hy⟩, hbefore⟩, hfault⟩

theorem select_of_first_fault (hbefore : ∀ y ∈ before, ∃ hit, q.eval (tree y) = .ok hit)
    (hfault : q.eval (tree x) = .error e) (after : List α) :
    q.select tree (before ++ x :: after) = .error e := by
  induction before with
  | nil => rw [List.nil_append, select, hfault]
  | cons y others ih =>
    obtain ⟨⟨hit, hy⟩, hothers⟩ := List.forall_mem_cons.mp hbefore
    rw [List.cons_append, select, hy, ih hothers]
    rfl

/-- A search finds the first of the records that a selection takes in. -/
theorem search_of_select {found : List α} (h : q.select tree records = .ok found)
    (cause : Missing) :
    q.search tree records cause = found.head?.elim (.error (.missing cause)) .ok := by
  induction records generalizing found with
  | nil =>
    rw [← Except.ok.inj h]
    rfl
  | cons x rest ih =>
    rw [select] at h
    rw [search, first]
    cases hx : q.eval (tree x) with
    | error e =>
      rw [hx] at h
      cases h
    | ok hit =>
      cases hrest : q.select tree rest with
      | error e =>
        rw [hx, hrest] at h
        cases h
      | ok later =>
        rw [hx, hrest] at h
        obtain rfl := Except.ok.inj h
        cases hit with
        | true => rfl
        | false => exact ih hrest

theorem stops_select (q : Query) (tree : α → Json) (records : List α) :
    q.Stops tree records (q.select tree records) where
  fails_iff := by
    constructor
    · rintro ⟨e, he⟩
      by_contra hnone
      have hall : ∀ x ∈ records, ∃ hit, q.eval (tree x) = .ok hit := by
        intro x hx
        cases hfault : q.eval (tree x) with
        | ok hit => exact ⟨hit, rfl⟩
        | error e => exact absurd ⟨x, hx, e, hfault⟩ hnone
      rw [select_of_forall hall] at he
      cases he
    · intro hsome
      obtain ⟨before, x, after, e, rfl, hbefore, hfault⟩ := exists_first_fault hsome
      exact ⟨e, select_of_first_fault hbefore hfault after⟩
  first before x after e hrecords hbefore hfault := by
    rw [hrecords]
    exact select_of_first_fault hbefore hfault after

/-- An answer that is given tells that the query could be put to every record. -/
theorem Stops.forall_eval {answer : Except Error β} (h : q.Stops tree records answer)
    (hok : answer.isOk = true) : ∀ x ∈ records, ∃ hit, q.eval (tree x) = .ok hit := by
  intro x hx
  cases hfault : q.eval (tree x) with
  | ok hit => exact ⟨hit, rfl⟩
  | error e =>
    obtain ⟨e', he'⟩ := h.fails_iff.mpr ⟨x, hx, e, hfault⟩
    rw [he'] at hok
    cases hok

/-- What is made of a selection fails as the selection does. -/
theorem Stops.map {γ : Type} {answer : Except Error β} (h : q.Stops tree records answer)
    (f : β → γ) : q.Stops tree records (answer.map f) where
  fails_iff := by
    rw [← h.fails_iff]
    cases answer with
    | error e => exact ⟨fun _ => ⟨e, rfl⟩, fun _ => ⟨e, rfl⟩⟩
    | ok found => exact ⟨nofun, nofun⟩
  first before x after e hrecords hbefore hfault := by
    rw [h.first before x after e hrecords hbefore hfault]
    rfl

end Query

end EdgeCatalog
