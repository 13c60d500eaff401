import Mathlib
import EdgeCatalog.Proofs.Service.Charging
import EdgeCatalog.Proofs.Service.Refinement
import EdgeCatalog.Proofs.Store.Cost

/-! What a service store counts. Every call adds its cost to the counters, and the store keeps book
of its registrations. -/
namespace EdgeCatalog

namespace ServiceMap

variable {m : Table Service} {now : Instant} {id : String} {service r : Service}

theorem new_of_add (h : (add m now service).1 = .ok r) : m.contains service.id = false := by
  rw [add] at h
  split at h
  · split at h
    · cases h
    · split at h
      · cases h
      · rename_i hin
        exact Bool.eq_false_iff.mpr hin
  · cases h

theorem contains_of_update (h : (update m now id service).1 = .ok r) : m.contains id = true := by
  rcases update_cases m now id service with ⟨e, hupdate⟩ | ⟨expires, old, -, hold, -⟩
  · rw [hupdate] at h
    cases h
  · exact Table.contains_iff.mpr ⟨old, hold⟩

theorem contains_of_delete (h : (delete m id).1 = .ok r) : m.contains id = true := by
  rcases delete_cases m id with ⟨e, hdelete⟩ | ⟨old, hold, -⟩
  · rw [hdelete] at h
    cases h
  · exact Table.contains_iff.mpr ⟨old, hold⟩

end ServiceMap

namespace ServiceStore

open ServiceTables (Stands)

variable {s : ServiceStore} {m : Table Service}

/-! ## Writing -/

theorem metrics_add (s : ServiceStore) (now : Instant) (service : Service) :
    (s.add now service).store.metrics =
      s.metrics + Cost.write { adds := 1 } (s.add now service).result := by
  rw [add_eq]
  cases hadmitted : s.tables.admitted now service with
  | error e =>
    obtain ⟨cause, rfl⟩ := ServiceTables.admitted_error hadmitted
    exact Metrics.recordRejected_eq _
  | ok stored => exact Metrics.recordAdd_eq _

theorem metrics_update (s : ServiceStore) (now : Instant) (id : String) (service : Service) :
    (s.update now id service).store.metrics =
      s.metrics + Cost.write { updates := 1 } (s.update now id service).result := by
  rw [update_eq]
  cases hamend : s.tables.amended now id service with
  | error e =>
    rcases ServiceTables.amended_error hamend with ⟨cause, rfl⟩ | rfl
    · exact Metrics.recordRejected_eq _
    · exact Metrics.recordLookup_eq _ _
  | ok stored => exact Metrics.recordUpdate_eq _

theorem metrics_delete (s : ServiceStore) (id : String) :
    (s.delete id).store.metrics = s.metrics + Cost.write { deletes := 1 } (s.delete id).result := by
  rw [delete]
  cases s.tables.data.get? id with
  | none => exact Metrics.recordLookup_eq _ _
  | some removed => exact Metrics.recordDelete_eq _

theorem metrics_cleanExpired (s : ServiceStore) (now : Instant) :
    (s.cleanExpired now).store.metrics =
      s.metrics + { expired := UInt64.ofNat (s.cleanExpired now).removed } := by
  rw [cleanExpired]
  split
  · exact (add_zero s.metrics).symm
  · exact Metrics.recordExpired_eq _ _

/-! ## Reading -/

theorem metrics_get (s : ServiceStore) (id : String) :
    (s.get id).store.metrics = s.metrics + Cost.lookup (s.get id).result.isOk := by
  have hfound : (s.get id).result.isOk = (s.tables.data.get? id).isSome := by
    rw [get]
    cases s.tables.data.get? id <;> rfl
  rw [hfound]
  exact Metrics.recordLookup_eq _ _

theorem metrics_getMany (h : s.tables.Stands m) (page perPage : UInt64) :
    (s.getMany page perPage).store.metrics = s.metrics + { listings := 1 } := by
  rw [getMany_eq h]
  exact Metrics.recordListing_eq _

theorem metrics_filterOne (h : s.tables.Stands m) (path relation value : String) :
    (s.filterOne path relation value).store.metrics =
      s.metrics + Cost.query path relation value := by
  rw [Cost.query]
  cases hq : Query.parse path relation value with
  | error e =>
    rw [filterOne, hq]
    exact (add_zero s.metrics).symm
  | ok q =>
    rw [filterOne_eq h hq]
    exact Metrics.recordQuery_eq _

theorem metrics_filterMany (h : s.tables.Stands m) (path relation value : String)
    (page perPage : UInt64) :
    (s.filterMany path relation value page perPage).store.metrics =
      s.metrics + Cost.query path relation value := by
  rw [Cost.query]
  cases hq : Query.parse path relation value with
  | error e =>
    rw [filterMany, hq]
    exact (add_zero s.metrics).symm
  | ok q =>
    rw [filterMany_eq h hq]
    exact Metrics.recordQuery_eq _

/-- Every call adds its cost to the counters. -/
theorem metrics_apply (h : s.tables.Stands m) (c : Operation Service) :
    (c.apply s).metrics = s.metrics + c.cost (c.answer s) := by
  cases c with
  | add now service =>
    rw [Operation.cost, Operation.answer, Cost.write_map]
    exact metrics_add s now service
  | update now id service =>
    rw [Operation.cost, Operation.answer, Cost.write_map]
    exact metrics_update s now id service
  | delete id =>
    rw [Operation.cost, Operation.answer, Cost.write_map]
    exact metrics_delete s id
  | cleanExpired now => exact metrics_cleanExpired s now
  | get id =>
    rw [Operation.cost, Operation.answer, isOk_map]
    exact metrics_get s id
  | getMany page perPage => exact metrics_getMany h page perPage
  | filterOne path relation value => exact metrics_filterOne h path relation value
  | filterMany path relation value page perPage =>
    exact metrics_filterMany h path relation value page perPage

/-! ## Keeping book -/

theorem bookkeeping : Bookkeeping Reachable fun s => s.tables.data where
  valid_apply hs c := hs.call c
  records_apply hs c := tracks.records_call hs c
  metrics_apply hs c := metrics_apply hs.stands c
  size_eq _ := rfl
  added hs now service _ h :=
    ServiceMap.new_of_add ((add_simulates hs.stands now service).1.symm.trans h)
  updated hs now id service _ h :=
    ServiceMap.contains_of_update ((update_simulates hs.stands now id service).1.symm.trans h)
  deleted hs id _ h :=
    ServiceMap.contains_of_delete ((delete_simulates hs.stands id).1.symm.trans h)
  removed_eq hs now := by
    refine (cleanExpired_simulates hs.stands now).1.trans ?_
    simp only [survives_singleton, Bool.not_not]
    rfl

end ServiceStore

end EdgeCatalog
