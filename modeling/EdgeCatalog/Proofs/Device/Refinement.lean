import Mathlib
import EdgeCatalog.Proofs.Device.Consistency

/-! The device store refines the plain map. After any calls there is a map, the one that the same
calls make of an empty map, such that reading the store reads the map, the result of each call is
that of the map, and reading after one more call reads the map that the call leaves. -/
namespace EdgeCatalog.DeviceStore

open DeviceTables (Stands)

/-- A store shows what a map holds, answers every call as the map does, and shows after the call
what the map holds after it. -/
structure Follows (s : DeviceStore) (m : Table Device) : Prop where
  get : ∀ id, (s.get id).result = DeviceMap.get m id
  getResource : ∀ id, (s.getResource id).result = DeviceMap.getResource m id
  size : s.size = m.size
  resourceCount : s.resourceCount = (DeviceMap.resources m).length
  add : ∀ now d, (s.add now d).result = (DeviceMap.add m now d).1
  update : ∀ now id d, (s.update now id d).result = (DeviceMap.update m now id d).1
  delete : ∀ id, (s.delete id).result = (DeviceMap.delete m id).1
  cleanExpired : ∀ now, (s.cleanExpired now).removed = (DeviceMap.cleanExpired m now).1
  call : ∀ c id, ((s.call c).get id).result = DeviceMap.get (DeviceMap.call m c) id

variable {s : DeviceStore} {m : Table Device}

@[simp] theorem result_observe {α : Type} (s : DeviceStore) (result : Except Error α) :
    (s.observe result).result = result := by
  unfold observe
  split <;> rfl

theorem result_get (h : s.tables.Stands m) (id : String) :
    (s.get id).result = DeviceMap.get m id := by
  rw [get, result_observe, h.rows.assemble, h.contents, DeviceMap.get]
  cases m.get? id <;> rfl

/-- What is read back is what the map holds. -/
theorem result_get_eq_ok_iff (h : s.tables.Stands m) {id : String} {d : Device} :
    (s.get id).result = .ok d ↔ m.get? id = some d := by
  rw [result_get h, DeviceMap.get_eq_ok_iff]

/-- A row is read back together with its resources. -/
theorem result_get_of_row (h : s.tables.Stands m) {id : String} {row : StoredDevice}
    (hrow : s.tables.devices.get? id = some row) :
    (s.get id).result = .ok (s.tables.whole row) := by
  rw [result_get_eq_ok_iff h, ← h.get?, hrow, Option.map_some]

theorem result_getResource (h : s.tables.Stands m) (id : String) :
    (s.getResource id).result = DeviceMap.getResource m id := by
  rw [getResource, DeviceMap.getResource, h.find_resource]
  cases s.tables.resources.get? id <;> rfl

theorem size_of_stands (h : s.tables.Stands m) : s.size = m.size := by
  rw [size, ← h.contents, DeviceTables.contents, Table.size_map]

theorem follows_of_stands (h : s.tables.Stands m) : s.Follows m where
  get := result_get h
  getResource := result_getResource h
  size := size_of_stands h
  resourceCount := h.size_resources
  add now d := (add_simulates h now d).1
  update now id d := (update_simulates h now id d).1
  delete id := (delete_simulates h id).1
  cleanExpired now := (cleanExpired_simulates h now).1
  call c := result_get (stands_call h c)

/-- Every run of the store follows the run of the map. -/
theorem follows_run (maxPerPage : UInt64) (calls : List DeviceCall) :
    (run { maxPerPage } calls).Follows (calls.foldl DeviceMap.call ∅) :=
  follows_of_stands (stands_run (s := { maxPerPage }) Stands.empty calls)

end EdgeCatalog.DeviceStore
