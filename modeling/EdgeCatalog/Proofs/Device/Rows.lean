import Mathlib
import EdgeCatalog.Store.DeviceTables
import EdgeCatalog.Proofs.Id.Grammar
import EdgeCatalog.Proofs.Table

/-! The rows of the device tables. `RowsAgree` says how device rows and resource rows belong
together; putting a device in and taking one out both keep it. That the resources of two devices
never meet is not checked anywhere: it follows from how their ids are made. -/
namespace EdgeCatalog

/-- What holds of every device as it is stored: it is named as a record, it expires when its time
to live says, and it owns resources of distinct ids that go on with its own. -/
structure Device.Storable (d : Device) : Prop where
  isRecord : Id.IsRecord d.id
  expires : Expiry.expiryFor d.updated d.ttl = .ok d.expires
  nodup : (d.resources.map (·.id)).Nodup
  owned : ∀ r ∈ d.resources, r.device = d.id ∧ Id.IsResource d.id r.id

namespace DeviceTables

/-- The device row under an id, beside the resource rows. -/
structure DeviceRow (resources : Table Resource) (id : String) (row : StoredDevice) : Prop where
  id_eq : row.device.id = id
  isRecord : Id.IsRecord id
  bare : row.device.resources = []
  expires : Expiry.expiryFor row.device.updated row.device.ttl = .ok row.device.expires
  nodup : row.resourceIds.Nodup
  owned : ∀ rid ∈ row.resourceIds, ∃ r, resources.get? rid = some r ∧ r.device = id

/-- The resource row under an id, beside the device rows. -/
structure ResourceRow (devices : Table StoredDevice) (id : String) (r : Resource) : Prop where
  id_eq : r.id = id
  isResource : Id.IsResource r.device id
  listed : ∃ row, devices.get? r.device = some row ∧ id ∈ row.resourceIds

/-- Device rows and resource rows belong together. -/
structure RowsAgree (t : DeviceTables) : Prop where
  device : ∀ {id row}, t.devices.get? id = some row → DeviceRow t.resources id row
  resource : ∀ {id r}, t.resources.get? id = some r → ResourceRow t.devices id r

theorem RowsAgree.empty : RowsAgree {} :=
  ⟨fun h => by simp at h, fun h => by simp at h⟩

/-- The indexes are no part of the rows. -/
theorem RowsAgree.reindex {t : DeviceTables} (h : RowsAgree t) : RowsAgree t.reindex :=
  ⟨h.device, h.resource⟩

/-- What a device row lists is named after the device. -/
theorem RowsAgree.isResource {t : DeviceTables} (h : RowsAgree t) {id rid : String}
    {row : StoredDevice} (hrow : t.devices.get? id = some row) (hrid : rid ∈ row.resourceIds) :
    Id.IsResource id rid := by
  obtain ⟨r, hr, rfl⟩ := (h.device hrow).owned rid hrid
  exact (h.resource hr).isResource

/-! ## Putting a device in -/

/-- The row that a device is stored in. -/
def rowOf (d : Device) : StoredDevice :=
  ⟨{ d with resources := [] }, d.resources.map (·.id)⟩

@[simp] theorem get?_devices_insert (t : DeviceTables) (d : Device) (id : String) :
    (t.insert d).devices.get? id =
      if d.id = id then some (rowOf d) else t.devices.get? id :=
  Table.get?_insert ..

theorem get?_resources_insert_of_mem {t : DeviceTables} {d : Device} (hd : d.Storable)
    {r : Resource} (hr : r ∈ d.resources) : (t.insert d).resources.get? r.id = some r :=
  Table.get?_foldl_insert_of_mem hd.nodup hr t.resources

theorem get?_resources_insert_of_notMem {t : DeviceTables} {d : Device} {rid : String}
    (hrid : rid ∉ d.resources.map (·.id)) :
    (t.insert d).resources.get? rid = t.resources.get? rid :=
  Table.get?_foldl_insert_of_notMem hrid t.resources

/-- Resources named after another device are left as they were. -/
theorem get?_resources_insert_of_isResource {t : DeviceTables} {d : Device} (hd : d.Storable)
    {owner rid : String} (hne : owner ≠ d.id) (hrid : Id.IsResource owner rid) :
    (t.insert d).resources.get? rid = t.resources.get? rid := by
  refine get?_resources_insert_of_notMem fun hmem => hne ?_
  obtain ⟨r, hr, rfl⟩ := List.mem_map.mp hmem
  exact hrid.owner_unique (hd.owned r hr).2

theorem RowsAgree.insert {t : DeviceTables} (h : RowsAgree t) {d : Device} (hd : d.Storable)
    (hnew : t.devices.get? d.id = none) : RowsAgree (t.insert d) where
  device {id row} hrow := by
    rw [get?_devices_insert] at hrow
    by_cases hid : d.id = id
    · rw [if_pos hid] at hrow
      obtain rfl := Option.some.inj hrow
      subst hid
      refine ⟨rfl, hd.isRecord, rfl, hd.expires, hd.nodup, fun rid hrid => ?_⟩
      obtain ⟨r, hr, rfl⟩ := List.mem_map.mp hrid
      exact ⟨r, get?_resources_insert_of_mem hd hr, (hd.owned r hr).1⟩
    · rw [if_neg hid] at hrow
      have hold := h.device hrow
      refine { hold with owned := fun rid hrid => ?_ }
      rw [get?_resources_insert_of_isResource hd (Ne.symm hid) (h.isResource hrow hrid)]
      exact hold.owned rid hrid
  resource {rid r} hr := by
    by_cases hmem : rid ∈ d.resources.map (·.id)
    · obtain ⟨r', hr', rfl⟩ := List.mem_map.mp hmem
      rw [get?_resources_insert_of_mem hd hr'] at hr
      obtain rfl := Option.some.inj hr
      obtain ⟨howner, hname⟩ := hd.owned _ hr'
      refine ⟨rfl, howner ▸ hname, rowOf d, ?_, hmem⟩
      rw [howner, get?_devices_insert, if_pos rfl]
    · rw [get?_resources_insert_of_notMem hmem] at hr
      obtain ⟨hid, hname, row, hrow, hlisted⟩ := h.resource hr
      refine ⟨hid, hname, row, ?_, hlisted⟩
      rw [get?_devices_insert, if_neg, hrow]
      intro hsame
      rw [← hsame, hnew] at hrow
      cases hrow

/-! ## Taking a device out -/

/-- The tables without a device row and the resources that it lists. -/
def without (t : DeviceTables) (id : String) (row : StoredDevice) : DeviceTables :=
  { t with
    devices := t.devices.erase id
    resources := row.resourceIds.foldl Table.erase t.resources }

@[simp] theorem get?_devices_without (t : DeviceTables) (id : String) (row : StoredDevice)
    (other : String) :
    (t.without id row).devices.get? other = if id = other then none else t.devices.get? other :=
  Table.get?_erase ..

@[simp] theorem get?_resources_without (t : DeviceTables) (id : String) (row : StoredDevice)
    (rid : String) :
    (t.without id row).resources.get? rid =
      if rid ∈ row.resourceIds then none else t.resources.get? rid :=
  Table.get?_foldl_erase ..

/-- Another device keeps its resources. -/
theorem RowsAgree.get?_resources_without {t : DeviceTables} (h : RowsAgree t) {id other : String}
    {row : StoredDevice} (hrow : t.devices.get? id = some row) (hne : id ≠ other) {rid : String}
    (hrid : Id.IsResource other rid) :
    (t.without id row).resources.get? rid = t.resources.get? rid := by
  rw [DeviceTables.get?_resources_without, if_neg]
  exact fun hmem => hne ((h.isResource hrow hmem).owner_unique hrid)

theorem RowsAgree.without {t : DeviceTables} (h : RowsAgree t) {id : String} {row : StoredDevice}
    (hrow : t.devices.get? id = some row) : RowsAgree (t.without id row) where
  device {other row'} hother := by
    rw [get?_devices_without] at hother
    by_cases hid : id = other
    · rw [if_pos hid] at hother
      cases hother
    · rw [if_neg hid] at hother
      have hold := h.device hother
      refine { hold with owned := fun rid hrid => ?_ }
      rw [h.get?_resources_without hrow hid (h.isResource hother hrid)]
      exact hold.owned rid hrid
  resource {rid r} hr := by
    rw [DeviceTables.get?_resources_without] at hr
    by_cases hmem : rid ∈ row.resourceIds
    · rw [if_pos hmem] at hr
      cases hr
    · rw [if_neg hmem] at hr
      obtain ⟨hid, hname, row', hrow', hlisted⟩ := h.resource hr
      refine ⟨hid, hname, row', ?_, hlisted⟩
      rw [get?_devices_without, if_neg, hrow']
      intro hsame
      rw [← hsame, hrow] at hrow'
      cases hrow'
      exact hmem hlisted

end DeviceTables

end EdgeCatalog
