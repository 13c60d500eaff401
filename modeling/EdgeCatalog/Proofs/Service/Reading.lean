import Mathlib
import EdgeCatalog.Proofs.Paging
import EdgeCatalog.Proofs.Query
import EdgeCatalog.Proofs.Service.Simulation

/-! Reading a service store, in full: the result, the counters and the events of every call that
reads, given by the map that the tables stand for. The index leads to every registration. -/
namespace EdgeCatalog.ServiceStore

open ServiceTables (Stands)

variable {s : ServiceStore} {m : Table Service} {q : Query} {path relation value : String}

theorem observe_ok {α : Type} (s : ServiceStore) (value : α) :
    s.observe (.ok value) = ⟨.ok value, s, []⟩ := rfl

theorem get_eq (h : s.tables.Stands m) (id : String) :
    s.get id =
      ⟨ServiceMap.get m id, { s with metrics := s.metrics.recordLookup (m.contains id) }, []⟩ := by
  rw [get, h.data, ServiceMap.get, Table.contains]
  cases m.get? id <;> rfl

theorem size_eq (h : s.tables.Stands m) : s.size = m.size :=
  congrArg Table.size h.data

/-- The registration under a key of the map is found, so nothing is out of order. -/
theorem observe_entry (h : s.tables.Stands m) {id : String} {service : Service}
    (hfound : m.get? id = some service) :
    s.observe (s.tables.entry id) = ⟨.ok service, s, []⟩ := by
  rw [ServiceTables.entry, h.data, hfound]
  rfl

/-- Entries of the map are read back as they are. -/
theorem mapM_entry (h : s.tables.Stands m) {entries : List (String × Service)}
    (he : ∀ e ∈ entries, m.get? e.1 = some e.2) :
    (entries.map Prod.fst).mapM s.tables.entry = .ok (entries.map Prod.snd) := by
  induction entries with
  | nil => rfl
  | cons e rest ih =>
    have hrest := ih fun other ho => he other (List.mem_cons_of_mem e ho)
    rw [List.map_cons, List.mapM_cons, hrest, ServiceTables.entry, h.data,
      he e List.mem_cons_self]
    rfl

theorem getMany_eq (h : s.tables.Stands m) (page perPage : UInt64) :
    s.getMany page perPage =
      ⟨.ok ⟨Paging.window m.values page perPage s.maxPerPage, m.size⟩,
        { s with metrics := s.metrics.recordListing }, []⟩ := by
  have hin : ∀ e ∈ Paging.window m.entries page perPage s.maxPerPage, m.get? e.1 = some e.2 :=
    fun e he => m.get?_eq_some_iff.mpr ((Paging.window_sublist _ _ _ _).subset he)
  have hread := mapM_entry h hin
  rw [← Paging.window_map, ← Paging.window_map] at hread
  rw [getMany]
  dsimp only
  rw [h.index_eq, Table.keys, hread, observe_ok, ← Table.values]
  exact congrArg (fun n => (⟨.ok ⟨_, n⟩, _, []⟩ : Step ServiceStore (Page Service))) (size_eq h)

theorem firstMatch_entries (h : s.tables.Stands m) (q : Query)
    {entries : List (String × Service)} (he : ∀ e ∈ entries, m.get? e.1 = some e.2) :
    s.firstMatch q (entries.map Prod.fst) =
      ⟨q.first Service.toJson (entries.map Prod.snd), s, []⟩ := by
  induction entries with
  | nil => rfl
  | cons e rest ih =>
    have hrest := ih fun other ho => he other (List.mem_cons_of_mem e ho)
    rw [List.map_cons, List.map_cons, firstMatch, observe_entry h (he e List.mem_cons_self),
      Query.first]
    dsimp only
    cases q.eval e.2.toJson with
    | error fault => rfl
    | ok hit =>
      cases hit with
      | true => rfl
      | false => exact hrest

theorem allMatches_entries (h : s.tables.Stands m) (q : Query)
    {entries : List (String × Service)} (he : ∀ e ∈ entries, m.get? e.1 = some e.2) :
    s.allMatches q (entries.map Prod.fst) =
      ⟨q.select Service.toJson (entries.map Prod.snd), s, []⟩ := by
  induction entries with
  | nil => rfl
  | cons e rest ih =>
    have hrest := ih fun other ho => he other (List.mem_cons_of_mem e ho)
    rw [List.map_cons, List.map_cons, allMatches, observe_entry h (he e List.mem_cons_self),
      Query.select, hrest]
    dsimp only
    cases q.eval e.2.toJson <;> rfl

theorem filterOne_eq (h : s.tables.Stands m) (hq : Query.parse path relation value = .ok q) :
    s.filterOne path relation value =
      ⟨q.search Service.toJson m.values (.matching .registration path relation value),
        { s with metrics := s.metrics.recordQuery }, []⟩ := by
  have hfirst := firstMatch_entries (s := { s with metrics := s.metrics.recordQuery }) h q
    fun e he => m.get?_eq_some_iff.mpr he
  rw [filterOne, hq]
  dsimp only
  rw [h.index_eq, Table.keys, hfirst, Query.search, ← Table.values]
  cases q.first Service.toJson m.values with
  | error e => rfl
  | ok found => cases found <;> rfl

theorem filterMany_eq (h : s.tables.Stands m) (hq : Query.parse path relation value = .ok q)
    (page perPage : UInt64) :
    s.filterMany path relation value page perPage =
      ⟨(q.select Service.toJson m.values).map fun found =>
          ⟨Paging.window found page perPage s.maxPerPage, found.length⟩,
        { s with metrics := s.metrics.recordQuery }, []⟩ := by
  have hall := allMatches_entries (s := { s with metrics := s.metrics.recordQuery }) h q
    fun e he => m.get?_eq_some_iff.mpr he
  rw [filterMany, hq]
  dsimp only
  rw [h.index_eq, Table.keys, hall]
  rfl

/-- A page that is shown tells what was selected. -/
theorem select_of_filterMany (h : s.tables.Stands m) {page perPage : UInt64}
    {shown : Page Service}
    (hshown : (s.filterMany path relation value page perPage).result = .ok shown) :
    ∃ q found, Query.parse path relation value = .ok q ∧
      q.select Service.toJson m.values = .ok found ∧
      shown = ⟨Paging.window found page perPage s.maxPerPage, found.length⟩ := by
  cases hq : Query.parse path relation value with
  | error e =>
    rw [filterMany, hq] at hshown
    cases hshown
  | ok q =>
    rw [filterMany_eq h hq] at hshown
    cases hfound : q.select Service.toJson m.values with
    | error e =>
      rw [hfound] at hshown
      cases hshown
    | ok found =>
      rw [hfound] at hshown
      exact ⟨q, found, rfl, hfound, (Except.ok.inj hshown).symm⟩

end EdgeCatalog.ServiceStore
