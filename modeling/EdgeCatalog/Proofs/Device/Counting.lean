import Mathlib
import EdgeCatalog.Proofs.Device.Charging
import EdgeCatalog.Proofs.Device.Lifetime
import EdgeCatalog.Proofs.Store.Cost

/-! What a device store counts. Every call adds its cost to the counters, and the store keeps book
of its devices; their resources are not counted. -/
namespace EdgeCatalog

namespace DeviceMap

variable {m : Table Device} {now : Instant} {id : String} {d r : Device}

theorem new_of_add (h : (add m now d).1 = .ok r) : m.contains d.id = false := by
  rw [add] at h
  split at h
  · split at h
    · cases h
    · split at h
      · cases h
      · rename_i hin
        exact Bool.eq_false_iff.mpr hin
  · cases h

theorem contains_of_update (h : (update m now id d).1 = .ok r) : m.contains id = true := by
  rcases update_cases m now id d with ⟨e, hupdate⟩ | ⟨expires, old, -, hold, -, -⟩
  · rw [hupdate] at h
    cases h
  · exact Table.contains_iff.mpr ⟨old, hold⟩

theorem contains_of_delete (h : (delete m id).1 = .ok r) : m.contains id = true := by
  rcases delete_cases m id with ⟨e, hdelete⟩ | ⟨old, hold, -⟩
  · rw [hdelete] at h
    cases h
  · exact Table.contains_iff.mpr ⟨old, hold⟩

end DeviceMap

namespace DeviceStore

open DeviceTables (Stands)

variable {s : DeviceStore} {m : Table Device}

/-! ## Writing -/

theorem metrics_add (s : DeviceStore) (now : Instant) (d : Device) :
    (s.add now d).store.metrics = s.metrics + Cost.write { adds := 1 } (s.add now d).result := by
  rw [add_eq]
  cases hadmitted : s.tables.admitted now d with
  | error e =>
    obtain ⟨cause, rfl⟩ := DeviceTables.admitted_error hadmitted
    exact Metrics.recordRejected_eq _
  | ok stored => exact Metrics.recordAdd_eq _

theorem metrics_update (s : DeviceStore) (now : Instant) (id : String) (d : Device) :
    (s.update now id d).store.metrics =
      s.metrics + Cost.write { updates := 1 } (s.update now id d).result := by
  rw [update_eq]
  cases hamend : s.tables.amended now id d with
  | error e =>
    rcases DeviceTables.amended_error hamend with ⟨cause, rfl⟩ | rfl
    · exact Metrics.recordRejected_eq _
    · exact Metrics.recordLookup_eq _ _
  | ok stored => exact Metrics.recordUpdate_eq _

theorem metrics_delete (s : DeviceStore) (id : String) :
    (s.delete id).store.metrics = s.metrics + Cost.write { deletes := 1 } (s.delete id).result := by
  rw [delete]
  cases s.tables.remove id with
  | none => exact Metrics.recordLookup_eq _ _
  | some removed => exact Metrics.recordDelete_eq _

theorem metrics_cleanExpired (s : DeviceStore) (now : Instant) :
    (s.cleanExpired now).store.metrics =
      s.metrics + { expired := UInt64.ofNat (s.cleanExpired now).removed } := by
  rw [cleanExpired]
  split
  · exact (add_zero s.metrics).symm
  · exact Metrics.recordExpired_eq _ _

/-! ## Reading -/

theorem metrics_get (h : s.tables.Stands m) (id : String) :
    (s.get id).store.metrics = s.metrics + Cost.lookup (s.get id).result.isOk := by
  have hfound : (DeviceMap.get m id).isOk = m.contains id := by
    rw [DeviceMap.get, Table.contains]
    cases m.get? id <;> rfl
  rw [get_eq h, hfound]
  exact Metrics.recordLookup_eq _ _

theorem metrics_getMany (h : s.tables.Stands m) (page perPage : UInt64) :
    (s.getMany page perPage).store.metrics = s.metrics + { listings := 1 } := by
  rw [getMany_eq h]
  exact Metrics.recordListing_eq _

theorem metrics_filterOne (h : s.tables.Stands m) (path relation value : String) :
    (s.filterOne path relation value).store.metrics =
      s.metrics + Cost.query path relation value := by
  rw [Cost.query]
  cases hq : Query.parse path relation value with
  | error e =>
    rw [filterOne, hq]
    exact (add_zero s.metrics).symm
  | ok q =>
    rw [filterOne_eq h hq]
    exact Metrics.recordQuery_eq _

theorem metrics_filterMany (h : s.tables.Stands m) (path relation value : String)
    (page perPage : UInt64) :
    (s.filterMany path relation value page perPage).store.metrics =
      s.metrics + Cost.query path relation value := by
  rw [Cost.query]
  cases hq : Query.parse path relation value with
  | error e =>
    rw [filterMany, hq]
    exact (add_zero s.metrics).symm
  | ok q =>
    rw [filterMany_eq h hq]
    exact Metrics.recordQuery_eq _

/-- Every call that all stores share adds its cost to the counters. -/
theorem metrics_apply (h : s.tables.Stands m) (c : Operation Device) :
    (c.apply s).metrics = s.metrics + c.cost (c.answer s) := by
  cases c with
  | add now d =>
    rw [Operation.cost, Operation.answer, Cost.write_map]
    exact metrics_add s now d
  | update now id d =>
    rw [Operation.cost, Operation.answer, Cost.write_map]
    exact metrics_update s now id d
  | delete id =>
    rw [Operation.cost, Operation.answer, Cost.write_map]
    exact metrics_delete s id
  | cleanExpired now => exact metrics_cleanExpired s now
  | get id =>
    rw [Operation.cost, Operation.answer, isOk_map]
    exact metrics_get h id
  | getMany page perPage => exact metrics_getMany h page perPage
  | filterOne path relation value => exact metrics_filterOne h path relation value
  | filterMany path relation value page perPage =>
    exact metrics_filterMany h path relation value page perPage

/-! ## Resources -/

/-- What a call on resources adds to the counters. -/
def resourceCost (s : DeviceStore) : ResourceCommand → Metrics
  | .get id => Cost.lookup (s.getResource id).result.isOk
  | .filterOne path relation value => Cost.query path relation value
  | .filterMany path relation value _ _ => Cost.query path relation value
  | .devices _ => 0

theorem metrics_resource (h : s.tables.Stands m) (command : ResourceCommand) :
    (s.call (.resource command)).metrics = s.metrics + s.resourceCost command := by
  cases command with
  | get id =>
    have hfound : (s.getResource id).result.isOk = (s.tables.resources.get? id).isSome := by
      rw [getResource]
      cases s.tables.resources.get? id <;> rfl
    rw [resourceCost, hfound]
    exact Metrics.recordLookup_eq _ _
  | filterOne path relation value =>
    rw [call, filterResourceOne, resourceCost, Cost.query]
    cases Query.parse path relation value with
    | error e => exact (add_zero s.metrics).symm
    | ok q => exact Metrics.recordQuery_eq _
  | filterMany path relation value page perPage =>
    rw [call, filterResourceMany, resourceCost, Cost.query]
    cases Query.parse path relation value with
    | error e => exact (add_zero s.metrics).symm
    | ok q => exact Metrics.recordQuery_eq _
  | devices resources =>
    rw [call, devicesFromResources_eq h]
    exact (add_zero s.metrics).symm

theorem balances_resourceCost (s : DeviceStore) (command : ResourceCommand) (n : Nat) :
    (s.resourceCost command).Balances n n := by
  cases command with
  | get id => exact Metrics.balances_lookup _ n
  | filterOne path relation value => exact Metrics.balances_query path relation value n
  | filterMany path relation value page perPage =>
    exact Metrics.balances_query path relation value n
  | devices resources => exact Metrics.balances_of_idle rfl rfl rfl n

/-! ## Keeping book -/

theorem bookkeeping : Bookkeeping Reachable contents where
  valid_apply hs c := hs.call (.record c)
  records_apply hs c := tracks.records_call hs (.record c)
  metrics_apply hs c := metrics_apply hs.stands c
  size_eq hs := size_of_stands hs.stands
  added hs now d _ h := DeviceMap.new_of_add ((add_simulates hs.stands now d).1.symm.trans h)
  updated hs now id d _ h :=
    DeviceMap.contains_of_update ((update_simulates hs.stands now id d).1.symm.trans h)
  deleted hs id _ h := DeviceMap.contains_of_delete ((delete_simulates hs.stands id).1.symm.trans h)
  removed_eq hs now := by
    refine (cleanExpired_simulates hs.stands now).1.trans ?_
    simp only [survives_singleton, Bool.not_not]
    rfl

end DeviceStore

end EdgeCatalog
