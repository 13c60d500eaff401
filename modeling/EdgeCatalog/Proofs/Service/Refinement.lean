import Mathlib
import EdgeCatalog.Proofs.Service.Lifetime
import EdgeCatalog.Proofs.Store.Write
import EdgeCatalog.Proofs.Text.Order

/-! The service store refines the plain map, and its index is exact. After any calls the rows are
the map that the same calls make of an empty map, every registration is under its own id and expires
when its time to live says, and the index lists the ids in order. -/
namespace EdgeCatalog

/-- What holds of the tables of a service store at all times. The order of the index is that of the
encoded keys, byte by byte. -/
structure ServiceTables.Consistent (t : ServiceTables) : Prop where
  id_eq : ∀ {id service}, t.data.get? id = some service → service.id = id
  storable : ∀ {id service}, t.data.get? id = some service → service.Storable
  index_ascending : t.index.keys.Pairwise fun a b => Text.bytes a < Text.bytes b
  mem_index : ∀ id, id ∈ t.index.keys ↔ t.data.contains id = true

theorem ServiceTables.Stands.consistent {t : ServiceTables} {m : Table Service} (h : t.Stands m) :
    t.Consistent where
  id_eq hfound := h.id_eq (h.data ▸ hfound)
  storable hfound := h.storable (h.data ▸ hfound)
  index_ascending := by
    rw [h.index_eq]
    exact m.pairwise_keys.imp Text.bytes_lt_bytes_iff.mpr
  mem_index id := by rw [h.index_eq, Table.mem_keys_iff, h.data]

namespace ServiceStore

open ServiceTables (Stands)

/-- A store holds a map, answers every call that reads or writes a record as the map does, and holds
after any call what the map holds after it. -/
structure Follows (s : ServiceStore) (m : Table Service) : Prop where
  data : s.tables.data = m
  get : ∀ id, (s.get id).result = ServiceMap.get m id
  size : s.size = m.size
  add : ∀ now service, (s.add now service).result = (ServiceMap.add m now service).1
  update : ∀ now id service,
    (s.update now id service).result = (ServiceMap.update m now id service).1
  delete : ∀ id, (s.delete id).result = (ServiceMap.delete m id).1
  cleanExpired : ∀ now, (s.cleanExpired now).removed = (ServiceMap.cleanExpired m now).1
  call : ∀ c : Operation Service, (c.apply s).tables.data = ServiceMap.call m c
  /-- A call changes nothing under another id than its own. -/
  others : ∀ (c : Operation Service) (id : String), ¬c.Writes id →
    (∀ now, c ≠ .cleanExpired now) → ((c.apply s).get id).result = (s.get id).result

variable {s : ServiceStore} {m : Table Service}

theorem result_get (h : s.tables.Stands m) (id : String) :
    (s.get id).result = ServiceMap.get m id :=
  congrArg (·.result) (get_eq h id)

/-- The registration under an id is read back, whatever is stored under others. -/
theorem result_get_congr {s' : ServiceStore} {m' : Table Service} (h : s.tables.Stands m)
    (h' : s'.tables.Stands m') {id : String} (hsame : m.get? id = m'.get? id) :
    (s.get id).result = (s'.get id).result := by
  rw [result_get h, result_get h', ServiceMap.get, ServiceMap.get, hsame]

theorem follows_of_stands (h : s.tables.Stands m) : s.Follows m where
  data := h.data
  get := result_get h
  size := size_eq h
  add now service := (add_simulates h now service).1
  update now id service := (update_simulates h now id service).1
  delete id := (delete_simulates h id).1
  cleanExpired now := (cleanExpired_simulates h now).1
  call c := (stands_call h c).data
  others c id hwrites hsweep := by
    refine result_get_congr (stands_call h c) h ?_
    rw [call_eq_effect h]
    exact Operation.get?_apply_effect s hwrites hsweep m

/-- Every run of the store follows the run of the map, with tables that are consistent. -/
theorem run_refines (maxPerPage : UInt64) (calls : List (Operation Service)) :
    (run { maxPerPage } calls).tables.Consistent ∧
      (run { maxPerPage } calls).Follows (calls.foldl ServiceMap.call ∅) := by
  have hs := stands_run (s := { maxPerPage }) Stands.empty calls
  exact ⟨hs.consistent, follows_of_stands hs⟩

end ServiceStore

end EdgeCatalog
