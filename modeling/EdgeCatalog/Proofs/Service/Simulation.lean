import Mathlib
import EdgeCatalog.Proofs.Expiry
import EdgeCatalog.Proofs.Index
import EdgeCatalog.Proofs.Service.Map

/-! The service store follows the plain map. Every call, whether it succeeds or fails, gives the
result that the map gives and leaves tables that stand for the map it leaves: the rows are the map,
every registration is as it may be stored and under its own id, and the index lists the ids. -/
namespace EdgeCatalog

/-- What holds of every registration as it is stored. -/
structure Service.Storable (service : Service) : Prop where
  isRecord : Id.IsRecord service.id
  expires : Expiry.expiryFor service.updated service.ttl = .ok service.expires

theorem ServiceMap.storable_stamped {id : String} (hid : Id.IsRecord id) {now : Instant}
    {service : Service} {expires : Option Instant}
    (hexpires : Expiry.expiryFor now service.ttl = .ok expires) (created : Instant) :
    (stamped id created now expires service).Storable :=
  ⟨hid, hexpires⟩

namespace ServiceTables

variable {t : ServiceTables} {m : Table Service} {id : String} {service : Service}

/-- The tables hold the map, and the index is up to date. -/
structure Stands (t : ServiceTables) (m : Table Service) : Prop where
  data : t.data = m
  indexed : t.reindex = t
  id_eq : ∀ {id service}, m.get? id = some service → service.id = id
  storable : ∀ {id service}, m.get? id = some service → service.Storable

theorem Stands.empty : Stands {} ∅ :=
  ⟨rfl, rfl, fun h => by simp at h, fun h => by simp at h⟩

/-- The index lists the keys of the map, which are in order already. -/
theorem Stands.index_eq (h : t.Stands m) : t.index.keys = m.keys := by
  have hkeys : t.index.keys = sortKeys t.data.keys := (congrArg (·.index.keys) h.indexed).symm
  rw [hkeys, h.data]
  exact (eq_sortKeys (m.pairwise_keys.imp le_of_lt) (List.Perm.refl _)).symm

/-! ## Writing -/

theorem Stands.insert (h : t.Stands m) (hs : service.Storable) :
    { t with data := t.data.insert service.id service }.reindex.Stands
      (m.insert service.id service) where
  data := by rw [← h.data]; rfl
  indexed := rfl
  id_eq {id found} hfound := by
    rw [Table.get?_insert] at hfound
    split at hfound
    · rename_i hid
      obtain rfl := Option.some.inj hfound
      exact hid
    · exact h.id_eq hfound
  storable {id found} hfound := by
    rw [Table.get?_insert] at hfound
    split at hfound
    · obtain rfl := Option.some.inj hfound
      exact hs
    · exact h.storable hfound

/-- Whatever rows are taken out, the others stay as they are. -/
theorem Stands.of_subset (h : t.Stands m) {rest : Table Service}
    (hrest : ∀ {id service}, rest.get? id = some service → m.get? id = some service) :
    { t with data := rest }.reindex.Stands rest where
  data := rfl
  indexed := rfl
  id_eq hfound := h.id_eq (hrest hfound)
  storable hfound := h.storable (hrest hfound)

theorem Stands.erase (h : t.Stands m) (id : String) :
    { t with data := t.data.erase id }.reindex.Stands (m.erase id) := by
  rw [h.data]
  refine h.of_subset fun {other service} hfound => ?_
  rw [Table.get?_erase] at hfound
  split at hfound
  · cases hfound
  · exact hfound

theorem Stands.filter (h : t.Stands m) (keep : Service → Bool) :
    { t with data := m.filter keep }.reindex.Stands (m.filter keep) := by
  refine h.of_subset fun {id service} hfound => ?_
  rw [Table.get?_filter] at hfound
  exact (Option.filter_eq_some_iff.mp hfound).1

end ServiceTables

namespace ServiceStore

open ServiceTables (Stands)

variable {s : ServiceStore} {m : Table Service}

theorem add_simulates (h : s.tables.Stands m) (now : Instant) (service : Service) :
    (s.add now service).result = (ServiceMap.add m now service).1 ∧
      (s.add now service).store.tables.Stands (ServiceMap.add m now service).2 := by
  obtain rfl := h.data
  rw [add, ServiceMap.add, Service.check]
  by_cases hid : Id.IsRecord service.id
  · rw [Id.checkRecord_eq_ok_iff.mpr hid, if_pos hid]
    dsimp only
    cases hexpires : Expiry.expiryFor now service.ttl with
    | error e =>
      obtain rfl := Expiry.expiryFor_error hexpires
      exact ⟨rfl, h⟩
    | ok expires =>
      dsimp only
      by_cases hin : s.tables.data.contains service.id = true
      · rw [if_pos hin, if_pos hin]
        exact ⟨rfl, h⟩
      · rw [if_neg hin, if_neg hin]
        exact ⟨rfl, h.insert (ServiceMap.storable_stamped hid hexpires now)⟩
  · rw [Id.checkRecord_of_not hid, if_neg hid]
    exact ⟨rfl, h⟩

theorem update_simulates (h : s.tables.Stands m) (now : Instant) (id : String)
    (service : Service) :
    (s.update now id service).result = (ServiceMap.update m now id service).1 ∧
      (s.update now id service).store.tables.Stands (ServiceMap.update m now id service).2 := by
  obtain rfl := h.data
  rw [update, ServiceMap.update]
  cases hexpires : Expiry.expiryFor now service.ttl with
  | error e =>
    obtain rfl := Expiry.expiryFor_error hexpires
    exact ⟨rfl, h⟩
  | ok expires =>
    dsimp only
    cases hfound : s.tables.data.get? id with
    | none => exact ⟨rfl, h⟩
    | some stored =>
      obtain rfl := h.id_eq hfound
      have hid := (h.storable hfound).isRecord
      exact ⟨rfl, h.insert (ServiceMap.storable_stamped hid hexpires stored.created)⟩

theorem delete_simulates (h : s.tables.Stands m) (id : String) :
    (s.delete id).result = (ServiceMap.delete m id).1 ∧
      (s.delete id).store.tables.Stands (ServiceMap.delete m id).2 := by
  obtain rfl := h.data
  rw [delete, ServiceMap.delete]
  cases s.tables.data.get? id with
  | none => exact ⟨rfl, h⟩
  | some service => exact ⟨rfl, h.erase id⟩

theorem cleanExpired_simulates (h : s.tables.Stands m) (now : Instant) :
    (s.cleanExpired now).removed = (ServiceMap.cleanExpired m now).1 ∧
      (s.cleanExpired now).store.tables.Stands (ServiceMap.cleanExpired m now).2 := by
  have hcount : (s.expiredIds now).length = (m.filter (·.isExpired now)).size := by
    rw [expiredIds, h.data, List.length_map, Table.size_filter]
  have hrest : (s.expiredIds now).foldl Table.erase m = m.filter (!·.isExpired now) := by
    rw [expiredIds, h.data]
    exact Table.foldl_erase_filter h.id_eq _
  rw [ServiceMap.cleanExpired, ← hcount, cleanExpired]
  by_cases hempty : (s.expiredIds now).isEmpty = true
  · rw [if_pos hempty, ← hrest, List.isEmpty_iff.mp hempty]
    exact ⟨rfl, h⟩
  · rw [if_neg hempty]
    refine ⟨rfl, ?_⟩
    rw [h.data, hrest]
    exact h.filter _

/-! ## Reading leaves the tables as they are -/

@[simp] theorem tables_observe {α : Type} (s : ServiceStore) (result : Except Error α) :
    (s.observe result).store.tables = s.tables := by
  unfold observe
  split <;> rfl

@[simp] theorem tables_getMany (s : ServiceStore) (page perPage : UInt64) :
    (s.getMany page perPage).store.tables = s.tables := by
  rw [getMany]
  exact tables_observe _ _

theorem tables_firstMatch (s : ServiceStore) (q : Query) (ids : List String) :
    (s.firstMatch q ids).store.tables = s.tables := by
  induction ids with
  | nil => rfl
  | cons id rest ih =>
    rw [firstMatch]
    split
    · exact tables_observe _ _
    · split
      · rfl
      · rfl
      · exact ih

theorem tables_allMatches (s : ServiceStore) (q : Query) (ids : List String) :
    (s.allMatches q ids).store.tables = s.tables := by
  induction ids with
  | nil => rfl
  | cons id rest ih =>
    rw [allMatches]
    split
    · exact tables_observe _ _
    · split
      · rfl
      · exact ih

@[simp] theorem tables_filterOne (s : ServiceStore) (path relation value : String) :
    (s.filterOne path relation value).store.tables = s.tables := by
  rw [filterOne]
  split
  · rfl
  · exact tables_firstMatch _ _ _

@[simp] theorem tables_filterMany (s : ServiceStore) (path relation value : String)
    (page perPage : UInt64) :
    (s.filterMany path relation value page perPage).store.tables = s.tables := by
  rw [filterMany]
  split
  · rfl
  · exact tables_allMatches _ _ _

/-! ## Runs -/

/-- The store that a sequence of calls leaves. -/
def run (s : ServiceStore) (calls : List (Operation Service)) : ServiceStore :=
  calls.foldl (fun s c => c.apply s) s

/-- A store that some sequence of calls leaves, starting from an empty one. -/
def Reachable (s : ServiceStore) : Prop :=
  ∃ (maxPerPage : UInt64) (calls : List (Operation Service)), s = run { maxPerPage } calls

/-- One call: the tables it leaves stand for the map it leaves. -/
theorem stands_call (h : s.tables.Stands m) (c : Operation Service) :
    (c.apply s).tables.Stands (ServiceMap.call m c) := by
  cases c with
  | add now service => exact (add_simulates h now service).2
  | update now id service => exact (update_simulates h now id service).2
  | delete id => exact (delete_simulates h id).2
  | cleanExpired now => exact (cleanExpired_simulates h now).2
  | get id => exact h
  | getMany page perPage => exact (tables_getMany s page perPage).symm ▸ h
  | filterOne path relation value => exact (tables_filterOne s path relation value).symm ▸ h
  | filterMany path relation value page perPage =>
    exact (tables_filterMany s path relation value page perPage).symm ▸ h

/-- All calls, one after the other. -/
theorem stands_run (h : s.tables.Stands m) (calls : List (Operation Service)) :
    (s.run calls).tables.Stands (calls.foldl ServiceMap.call m) := by
  induction calls generalizing s m with
  | nil => exact h
  | cons c rest ih => exact ih (stands_call h c)

/-- The tables of a reachable store stand for its rows. -/
theorem Reachable.stands (h : s.Reachable) : s.tables.Stands s.tables.data := by
  obtain ⟨maxPerPage, calls, rfl⟩ := h
  have hs := stands_run (s := { maxPerPage }) Stands.empty calls
  rwa [hs.data]

/-- A call on a reachable store leaves a reachable one. -/
theorem Reachable.call (h : s.Reachable) (c : Operation Service) : (c.apply s).Reachable := by
  obtain ⟨maxPerPage, calls, rfl⟩ := h
  exact ⟨maxPerPage, calls ++ [c], by rw [run, run, List.foldl_append]; rfl⟩

end ServiceStore

end EdgeCatalog
