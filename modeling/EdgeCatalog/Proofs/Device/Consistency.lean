import Mathlib
import EdgeCatalog.Proofs.Device.Run
import EdgeCatalog.Proofs.Index
import EdgeCatalog.Proofs.Text.Order

/-! The invariant of the device tables: the rows agree, the lists of the device rows share the
resource rows out among them, and both indexes are the sorted keys that the rows call for. Every
store that calls can make of an empty one keeps it. -/
namespace EdgeCatalog

namespace DeviceTables

variable {t : DeviceTables} {m : Table Device}

/-! ## How the resources are shared out -/

theorem mem_listed {rid : String} :
    rid ∈ t.devices.values.flatMap (·.resourceIds) ↔
      ∃ id row, t.devices.get? id = some row ∧ rid ∈ row.resourceIds := by
  rw [List.mem_flatMap]
  constructor
  · rintro ⟨row, hrow, hrid⟩
    obtain ⟨id, hid⟩ := Table.mem_values_iff.mp hrow
    exact ⟨id, row, hid, hrid⟩
  · rintro ⟨id, row, hid, hrid⟩
    exact ⟨row, Table.mem_values_iff.mpr ⟨id, hid⟩, hrid⟩

/-- No resource is listed twice, be it by one device or by two. -/
theorem RowsAgree.nodup_listed (h : t.RowsAgree) :
    (t.devices.values.flatMap (·.resourceIds)).Nodup := by
  rw [Table.values, List.flatMap_map, List.nodup_flatMap]
  have hrow {e : String × StoredDevice} (he : e ∈ t.devices.entries) :
      t.devices.get? e.1 = some e.2 := t.devices.get?_eq_some_iff.mpr he
  refine ⟨fun e he => (h.device (hrow he)).nodup, ?_⟩
  refine t.devices.ascending.imp_of_mem fun {a b} ha hb hlt rid hra hrb => ?_
  -- a common resource would be named after both devices
  have hsame := (h.isResource (hrow ha) hra).owner_unique (h.isResource (hrow hb) hrb)
  exact (ne_of_lt hlt) hsame

theorem RowsAgree.listed_perm (h : t.RowsAgree) :
    (t.devices.values.flatMap (·.resourceIds)).Perm t.resources.keys := by
  refine (List.perm_ext_iff_of_nodup h.nodup_listed t.resources.nodup_keys).mpr fun rid => ?_
  rw [mem_listed, Table.mem_keys_iff, Table.contains_iff]
  constructor
  · rintro ⟨id, row, hrow, hrid⟩
    obtain ⟨r, hr, -⟩ := (h.device hrow).owned rid hrid
    exact ⟨r, hr⟩
  · rintro ⟨r, hr⟩
    obtain ⟨row, hrow, hrid⟩ := (h.resource hr).listed
    exact ⟨r.device, row, hrow, hrid⟩

/-! ## The resources of all devices -/

theorem Stands.mem_values (h : t.Stands m) {d : Device} :
    d ∈ m.values ↔ ∃ row, t.devices.get? d.id = some row ∧ t.whole row = d := by
  rw [Table.mem_values_iff]
  constructor
  · rintro ⟨id, hd⟩
    rw [← h.contents] at hd
    obtain rfl := h.rows.id_eq_of_contents hd
    rw [get?_contents] at hd
    exact Option.map_eq_some_iff.mp hd
  · rintro ⟨row, hrow, hd⟩
    refine ⟨d.id, ?_⟩
    rw [← h.get?, hrow, Option.map_some, hd]

theorem Stands.mem_resources (h : t.Stands m) {r : Resource} :
    r ∈ DeviceMap.resources m ↔ t.resources.get? r.id = some r := by
  rw [DeviceMap.resources, List.mem_flatMap]
  constructor
  · rintro ⟨d, hd, hr⟩
    obtain ⟨row, -, rfl⟩ := h.mem_values.mp hd
    exact (h.rows.mem_resources_whole.mp hr).2
  · intro hr
    obtain ⟨row, hrow, hlisted⟩ := (h.rows.resource hr).listed
    refine ⟨t.whole row, h.mem_values.mpr ⟨row, ?_, rfl⟩, ?_⟩
    · rw [← hrow]
      exact congrArg t.devices.get? (h.rows.device hrow).id_eq
    · exact h.rows.mem_resources_whole.mpr ⟨hlisted, hr⟩

theorem Stands.map_id_resources (h : t.Stands m) :
    (DeviceMap.resources m).map (·.id) = t.devices.values.flatMap (·.resourceIds) := by
  rw [DeviceMap.resources, ← h.contents, DeviceTables.contents, Table.values_map, List.flatMap_map,
    List.map_flatMap]
  refine List.flatMap_congr fun row hrow => ?_
  obtain ⟨id, hid⟩ := Table.mem_values_iff.mp hrow
  exact h.rows.map_id_whole hid

/-- The resource rows hold the resources of all devices, each once. -/
theorem Stands.resources_perm (h : t.Stands m) :
    (DeviceMap.resources m).Perm t.resources.values := by
  have hids : ((DeviceMap.resources m).map (·.id)).Nodup :=
    h.map_id_resources ▸ h.rows.nodup_listed
  have hvalues : (t.resources.values.map (·.id)).Nodup := by
    rw [t.resources.map_values_eq_keys fun hr => (h.rows.resource hr).id_eq]
    exact t.resources.nodup_keys
  refine (List.perm_ext_iff_of_nodup hids.of_map hvalues.of_map).mpr fun r => ?_
  rw [h.mem_resources, Table.mem_values_iff]
  constructor
  · exact fun hr => ⟨r.id, hr⟩
  · rintro ⟨key, hr⟩
    obtain rfl := (h.rows.resource hr).id_eq
    exact hr

theorem Stands.size_resources (h : t.Stands m) :
    t.resources.size = (DeviceMap.resources m).length := by
  rw [h.resources_perm.length_eq, Table.length_values]

/-- A resource row is what a search through all devices finds. -/
theorem Stands.find_resource (h : t.Stands m) (id : String) :
    (DeviceMap.resources m).find? (·.id = id) = t.resources.get? id := by
  cases hfound : (DeviceMap.resources m).find? (·.id = id) with
  | none =>
    cases hr : t.resources.get? id with
    | none => rfl
    | some r =>
      obtain rfl := (h.rows.resource hr).id_eq
      have hnot := List.find?_eq_none.mp hfound r (h.mem_resources.mpr hr)
      simp at hnot
  | some r =>
    have hid : r.id = id := by simpa using List.find?_some hfound
    rw [← hid, h.mem_resources.mp (List.mem_of_find?_eq_some hfound)]

/-! ## The indexes -/

theorem mem_bareIds {id : String} :
    id ∈ t.bareIds ↔ ∃ row, t.devices.get? id = some row ∧ row.resourceIds = [] := by
  rw [bareIds, List.mem_map]
  constructor
  · rintro ⟨⟨k, row⟩, he, rfl⟩
    obtain ⟨hin, hempty⟩ := List.mem_filter.mp he
    exact ⟨row, t.devices.get?_eq_some_iff.mpr hin, List.isEmpty_iff.mp hempty⟩
  · rintro ⟨row, hrow, hempty⟩
    refine ⟨(id, row), List.mem_filter.mpr ⟨t.devices.get?_eq_some_iff.mp hrow, ?_⟩, rfl⟩
    exact List.isEmpty_iff.mpr hempty

theorem nodup_bareIds (t : DeviceTables) : t.bareIds.Nodup :=
  t.devices.nodup_keys.sublist (List.filter_sublist.map Prod.fst)

/-- The id of a resource is never that of a device. -/
theorem RowsAgree.nodup_units (h : t.RowsAgree) : (t.resources.keys ++ t.bareIds).Nodup := by
  refine t.resources.nodup_keys.append (nodup_bareIds t) fun key hres hbare => ?_
  obtain ⟨r, hr⟩ := Table.contains_iff.mp (Table.mem_keys_iff.mp hres)
  obtain ⟨-, hname, row, hrow, -⟩ := h.resource hr
  obtain ⟨bare, hdevice, -⟩ := mem_bareIds.mp hbare
  exact hname.not_isRecord (h.device hrow).isRecord (h.device hdevice).isRecord

theorem RowsAgree.get?_resources_of_bare (h : t.RowsAgree) {id : String} (hid : id ∈ t.bareIds) :
    t.resources.get? id = none := by
  refine Option.eq_none_iff_forall_ne_some.mpr fun r hr => ?_
  exact List.disjoint_of_nodup_append h.nodup_units (Table.mem_keys_of_get? hr) hid

theorem Stands.index_keys (h : t.Stands m) : t.index.keys = sortKeys t.devices.keys :=
  (congrArg (·.index.keys) h.indexed).symm

theorem Stands.units_keys (h : t.Stands m) :
    t.units.keys = sortKeys (t.resources.keys ++ t.bareIds) :=
  (congrArg (·.units.keys) h.indexed).symm

theorem Stands.mem_units (h : t.Stands m) {key : String} :
    key ∈ t.units.keys ↔ t.resources.contains key = true ∨
      ∃ row, t.devices.get? key = some row ∧ row.resourceIds = [] := by
  rw [h.units_keys, mem_sortKeys, List.mem_append, Table.mem_keys_iff, mem_bareIds]

theorem Stands.pairwise_units (h : t.Stands m) : t.units.keys.Pairwise (· < ·) := by
  rw [h.units_keys]
  exact pairwise_lt_sortKeys h.rows.nodup_units

/-! ## The invariant -/

/-- What holds of the tables of a device store at all times. The order of the indexes is that of
the encoded keys, byte by byte. -/
structure Consistent (t : DeviceTables) : Prop extends RowsAgree t where
  /-- Every resource row is listed once, by one device, and nothing else is listed. -/
  sharedOut : (t.devices.values.flatMap (·.resourceIds)).Perm t.resources.keys
  index_ascending : t.index.keys.Pairwise fun a b => Text.bytes a < Text.bytes b
  mem_index : ∀ id, id ∈ t.index.keys ↔ t.devices.contains id = true
  units_ascending : t.units.keys.Pairwise fun a b => Text.bytes a < Text.bytes b
  mem_units : ∀ key, key ∈ t.units.keys ↔ t.resources.contains key = true ∨
    ∃ row, t.devices.get? key = some row ∧ row.resourceIds = []

theorem Stands.consistent (h : t.Stands m) : t.Consistent where
  toRowsAgree := h.rows
  sharedOut := h.rows.listed_perm
  index_ascending := by
    rw [h.index_keys]
    exact (pairwise_lt_sortKeys t.devices.nodup_keys).imp Text.bytes_lt_bytes_iff.mpr
  mem_index id := by rw [h.index_keys, mem_sortKeys, Table.mem_keys_iff]
  units_ascending := h.pairwise_units.imp Text.bytes_lt_bytes_iff.mpr
  mem_units _ := h.mem_units

end DeviceTables

/-- Whatever is called on an empty store, and whether the calls succeed or fail, the tables stay
consistent. -/
theorem DeviceStore.consistent_run (maxPerPage : UInt64) (calls : List DeviceCall) :
    (run { maxPerPage } calls).tables.Consistent :=
  (stands_run (s := { maxPerPage }) DeviceTables.Stands.empty calls).consistent

end EdgeCatalog
