import Mathlib
import EdgeCatalog.Proofs.Service.Refinement
import EdgeCatalog.Proofs.Service.Writing

/-! What settles a service store. The map that the tables stand for leaves no choice in them, and
what a write answers is settled by what the map holds under the id of the write. -/
namespace EdgeCatalog

/-- There is one way to keep a map in tables. -/
theorem ServiceTables.Stands.unique {t t' : ServiceTables} {m : Table Service} (h : t.Stands m)
    (h' : t'.Stands m) : t = t' := by
  have hdata : t.data = t'.data := h.data.trans h'.data.symm
  rw [← h.indexed, ← h'.indexed]
  simp only [reindex, Index.rebuild, hdata]

namespace ServiceMap

variable {m m' : Table Service} {id : String}

theorem add_congr (now : Instant) {service : Service} (h : m.get? service.id = m'.get? service.id) :
    (add m now service).1 = (add m' now service).1 := by
  have hin : m.contains service.id = m'.contains service.id := congrArg Option.isSome h
  rw [add, add, hin]
  split
  · split
    · rfl
    · split <;> rfl
  · rfl

theorem update_congr (now : Instant) (service : Service) (h : m.get? id = m'.get? id) :
    (update m now id service).1 = (update m' now id service).1 := by
  rw [update, update, h]
  split
  · rfl
  · split <;> rfl

theorem delete_congr (h : m.get? id = m'.get? id) : (delete m id).1 = (delete m' id).1 := by
  rw [delete, delete, h]
  split <;> rfl

end ServiceMap

namespace ServiceStore

open ServiceTables (Stands)

variable {s s' : ServiceStore} {m m' : Table Service} {c : Operation Service} {id : String}

/-- What a write answers depends on nothing but the registration under its id. -/
theorem answer_congr (h : s.tables.Stands m) (h' : s'.tables.Stands m') (hc : c.Writes id)
    (hsame : m.get? id = m'.get? id) : c.answer s = c.answer s' := by
  cases hc with
  | add now service =>
    have hresult : (s.add now service).result = (s'.add now service).result := by
      rw [(add_simulates h now service).1, (add_simulates h' now service).1,
        ServiceMap.add_congr now hsame]
    exact congrArg (·.map Reply.record) hresult
  | update now _ service =>
    have hresult : (s.update now id service).result = (s'.update now id service).result := by
      rw [(update_simulates h now id service).1, (update_simulates h' now id service).1,
        ServiceMap.update_congr now service hsame]
    exact congrArg (·.map Reply.record) hresult
  | delete =>
    have hresult : (s.delete id).result = (s'.delete id).result := by
      rw [(delete_simulates h id).1, (delete_simulates h' id).1, ServiceMap.delete_congr hsame]
    exact congrArg (·.map Reply.record) hresult

/-- A write leaves the configuration as it is. -/
theorem maxPerPage_apply (s : ServiceStore) (hc : c.Writes id) :
    (c.apply s).maxPerPage = s.maxPerPage := by
  cases hc with
  | add now service =>
    show (s.add now service).store.maxPerPage = s.maxPerPage
    rw [add_eq]
    cases s.tables.admitted now service <;> rfl
  | update now _ service =>
    show (s.update now id service).store.maxPerPage = s.maxPerPage
    rw [update_eq]
    cases s.tables.amended now id service with
    | error e =>
      dsimp only [refuse]
      split <;> rfl
    | ok stored => rfl
  | delete =>
    show (s.delete id).store.maxPerPage = s.maxPerPage
    rw [delete]
    cases s.tables.data.get? id <;> rfl

/-- The registrations, the configuration and the counters make up a store. -/
theorem eq_of_stands (h : s.tables.Stands m) (h' : s'.tables.Stands m)
    (hconfig : s.maxPerPage = s'.maxPerPage) (hmetrics : s.metrics = s'.metrics) : s = s' := by
  calc
    s = ⟨s.tables, s.maxPerPage, s.metrics⟩ := rfl
    _ = s' := by rw [h.unique h', hconfig, hmetrics]

end ServiceStore

end EdgeCatalog
