import Mathlib
import EdgeCatalog.Proofs.Device.Refinement
import EdgeCatalog.Proofs.Device.Writing
import EdgeCatalog.Proofs.Store.Write

/-! What settles a device store. The map that the tables stand for leaves no choice in them, down to
the order of their rows and indexes, and what a write answers is settled by what the map holds under
the id of the write. -/
namespace EdgeCatalog

namespace DeviceTables

variable {t t' : DeviceTables} {m m' : Table Device}

/-- Joining a row with its resources and taking it apart again gives it back. -/
theorem RowsAgree.rowOf_whole (h : t.RowsAgree) {id : String} {row : StoredDevice}
    (hrow : t.devices.get? id = some row) : rowOf (t.whole row) = row := by
  have hbare := (h.device hrow).bare
  rw [rowOf, h.map_id_whole hrow, whole, ← hbare]

theorem Stands.devices_eq (h : t.Stands m) : t.devices = m.map rowOf := by
  refine Table.ext_get? fun id => ?_
  rw [Table.get?_map, ← h.get?, Option.map_map]
  cases hrow : t.devices.get? id with
  | none => rfl
  | some row => exact (congrArg some (h.rows.rowOf_whole hrow)).symm

theorem bareIds_eq_map (t : DeviceTables) :
    t.bareIds = ((t.devices.map (·.resourceIds)).entries.filter (·.2.isEmpty)).map Prod.fst := by
  simp [bareIds, Table.map, List.filter_map, Function.comp_def]

/-- The resources of the devices settle the resource rows and both indexes. -/
theorem Stands.aside_congr (h : t.Stands m) (h' : t'.Stands m')
    (hsame : m.map (·.resources) = m'.map (·.resources)) :
    t.resources = t'.resources ∧ t.index = t'.index ∧ t.units = t'.units := by
  have hall : DeviceMap.resources m = DeviceMap.resources m' := by
    rw [DeviceMap.resources, DeviceMap.resources, List.flatMap_def, List.flatMap_def,
      ← Table.values_map, ← Table.values_map, hsame]
  have hresources : t.resources = t'.resources := by
    refine Table.ext_get? fun id => ?_
    rw [← h.find_resource, ← h'.find_resource, hall]
  have hlisted : t.devices.map (·.resourceIds) = t'.devices.map (·.resourceIds) := by
    have hids (m : Table Device) : (m.map rowOf).map (·.resourceIds) =
        (m.map (·.resources)).map fun resources => resources.map (·.id) := by
      refine Table.ext_get? fun id => ?_
      simp only [Table.get?_map, Option.map_map]
      rfl
    rw [h.devices_eq, h'.devices_eq, hids, hids, hsame]
  have hkeys : t.devices.keys = t'.devices.keys := by
    rw [← Table.keys_map (·.resourceIds), hlisted, Table.keys_map]
  -- the indexes are made of the rows, whatever they were before
  rw [← h.indexed, ← h'.indexed]
  simp only [reindex, Index.rebuild, bareIds_eq_map, hresources, hlisted, hkeys, and_self]

/-- There is one way to keep a map in tables. -/
theorem Stands.unique (h : t.Stands m) (h' : t'.Stands m) : t = t' := by
  obtain ⟨hresources, hindex, hunits⟩ := h.aside_congr h' rfl
  calc
    t = ⟨t.devices, t.resources, t.index, t.units⟩ := rfl
    _ = t' := by rw [h.devices_eq, ← h'.devices_eq, hresources, hindex, hunits]

/-- Rows that agree and hold the same devices are indexed alike. -/
theorem RowsAgree.reindex_congr (h : t.RowsAgree) (h' : t'.RowsAgree)
    (hsame : t.contents = t'.contents) : t.reindex = t'.reindex :=
  h.stands_reindex.unique (hsame ▸ h'.stands_reindex)

end DeviceTables

namespace DeviceMap

variable {m m' : Table Device} {id : String}

theorem add_congr (now : Instant) {d : Device} (h : m.get? d.id = m'.get? d.id) :
    (add m now d).1 = (add m' now d).1 := by
  have hin : m.contains d.id = m'.contains d.id := congrArg Option.isSome h
  rw [add, add, hin]
  split
  · split
    · rfl
    · split
      · rfl
      · split <;> rfl
  · rfl

theorem update_congr (now : Instant) (d : Device) (h : m.get? id = m'.get? id) :
    (update m now id d).1 = (update m' now id d).1 := by
  rw [update, update, h]
  split
  · rfl
  · split
    · rfl
    · split <;> rfl

theorem delete_congr (h : m.get? id = m'.get? id) : (delete m id).1 = (delete m' id).1 := by
  rw [delete, delete, h]
  split <;> rfl

end DeviceMap

namespace DeviceStore

open DeviceTables (Stands)

variable {s s' : DeviceStore} {m m' : Table Device} {c : Operation Device} {id : String}

/-- What a write answers depends on nothing but the device under its id. -/
theorem answer_congr (h : s.tables.Stands m) (h' : s'.tables.Stands m') (hc : c.Writes id)
    (hsame : m.get? id = m'.get? id) : c.answer s = c.answer s' := by
  cases hc with
  | add now d =>
    have hresult : (s.add now d).result = (s'.add now d).result := by
      rw [(add_simulates h now d).1, (add_simulates h' now d).1, DeviceMap.add_congr now hsame]
    exact congrArg (·.map Reply.record) hresult
  | update now _ d =>
    have hresult : (s.update now id d).result = (s'.update now id d).result := by
      rw [(update_simulates h now id d).1, (update_simulates h' now id d).1,
        DeviceMap.update_congr now d hsame]
    exact congrArg (·.map Reply.record) hresult
  | delete =>
    have hresult : (s.delete id).result = (s'.delete id).result := by
      rw [(delete_simulates h id).1, (delete_simulates h' id).1, DeviceMap.delete_congr hsame]
    exact congrArg (·.map Reply.record) hresult

/-- A write leaves the configuration as it is. -/
theorem maxPerPage_apply (s : DeviceStore) (hc : c.Writes id) :
    (c.apply s).maxPerPage = s.maxPerPage := by
  cases hc with
  | add now d =>
    show (s.add now d).store.maxPerPage = s.maxPerPage
    rw [add_eq]
    cases s.tables.admitted now d <;> rfl
  | update now _ d =>
    show (s.update now id d).store.maxPerPage = s.maxPerPage
    rw [update_eq]
    cases s.tables.amended now id d with
    | error e =>
      dsimp only [refuse]
      split <;> rfl
    | ok stored => rfl
  | delete =>
    show (s.delete id).store.maxPerPage = s.maxPerPage
    rw [delete]
    cases s.tables.remove id <;> rfl

/-- The devices, the configuration and the counters make up a store. -/
theorem eq_of_stands (h : s.tables.Stands m) (h' : s'.tables.Stands m)
    (hconfig : s.maxPerPage = s'.maxPerPage) (hmetrics : s.metrics = s'.metrics) : s = s' := by
  calc
    s = ⟨s.tables, s.maxPerPage, s.metrics⟩ := rfl
    _ = s' := by rw [h.unique h', hconfig, hmetrics]

end DeviceStore

end EdgeCatalog
