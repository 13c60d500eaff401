import Mathlib
import EdgeCatalog.Proofs.Device.Rows

/-! What the device tables stand for: a plain map from ids to whole devices. Rows that agree can be
joined again without loss, and putting a device in or taking one out is an insertion into that map
or an erasure from it. -/
namespace EdgeCatalog.DeviceTables

/-- A device row joined with its resources. -/
def whole (t : DeviceTables) (row : StoredDevice) : Device :=
  { row.device with resources := row.resourceIds.filterMap t.resources.get? }

/-- The whole devices by their ids. -/
def contents (t : DeviceTables) : Table Device :=
  t.devices.map t.whole

variable {t : DeviceTables}

@[simp] theorem contents_reindex : t.reindex.contents = t.contents := rfl

theorem get?_contents (t : DeviceTables) (id : String) :
    t.contents.get? id = (t.devices.get? id).map t.whole :=
  Table.get?_map ..

/-- Joining depends on the listed resources only. -/
theorem whole_congr {t' : DeviceTables} {row : StoredDevice}
    (h : ∀ rid ∈ row.resourceIds, t'.resources.get? rid = t.resources.get? rid) :
    t'.whole row = t.whole row := by
  rw [whole, whole, List.filterMap_congr h]

/-! ## Joining rows -/

theorem resourcesOf_eq_ok (id : String) {rids : List String}
    (h : ∀ rid ∈ rids, ∃ r, t.resources.get? rid = some r) :
    t.resourcesOf id rids = .ok (rids.filterMap t.resources.get?) := by
  induction rids with
  | nil => rfl
  | cons rid rest ih =>
    obtain ⟨r, hr⟩ := h rid List.mem_cons_self
    have hrest := ih fun other ho => h other (List.mem_cons_of_mem _ ho)
    rw [resourcesOf, hr, List.filterMap_cons_some hr, hrest]
    rfl

/-- Reading a device back finds all of its resources. -/
theorem RowsAgree.assemble (h : RowsAgree t) (id : String) :
    t.assemble id = match t.contents.get? id with
      | some d => .ok d
      | none => .error (.missing (.entry id)) := by
  rw [get?_contents, DeviceTables.assemble]
  cases hrow : t.devices.get? id with
  | none => rfl
  | some row =>
    have hfound := resourcesOf_eq_ok (t := t) id fun rid hrid =>
      ((h.device hrow).owned rid hrid).imp fun _ hr => hr.1
    show (t.resourcesOf id row.resourceIds).map _ = _
    rw [hfound]
    rfl

theorem RowsAgree.mem_resources_whole (h : RowsAgree t) {row : StoredDevice} {r : Resource} :
    r ∈ (t.whole row).resources ↔ r.id ∈ row.resourceIds ∧ t.resources.get? r.id = some r := by
  rw [whole, List.mem_filterMap]
  constructor
  · rintro ⟨rid, hrid, hr⟩
    obtain rfl := (h.resource hr).id_eq
    exact ⟨hrid, hr⟩
  · rintro ⟨hrid, hr⟩
    exact ⟨r.id, hrid, hr⟩

theorem RowsAgree.map_id_whole (h : RowsAgree t) {id : String} {row : StoredDevice}
    (hrow : t.devices.get? id = some row) :
    (t.whole row).resources.map (·.id) = row.resourceIds := by
  rw [whole, List.map_filterMap]
  have hsame : ∀ rid ∈ row.resourceIds,
      (t.resources.get? rid).map (·.id) = some rid := by
    intro rid hrid
    obtain ⟨r, hr, -⟩ := (h.device hrow).owned rid hrid
    rw [hr, Option.map_some, (h.resource hr).id_eq]
  rw [List.filterMap_congr hsame, List.filterMap_some]

/-- A whole device is listed under its id. -/
theorem RowsAgree.id_eq_of_contents (h : RowsAgree t) {id : String} {d : Device}
    (hd : t.contents.get? id = some d) : d.id = id := by
  rw [get?_contents] at hd
  obtain ⟨row, hrow, rfl⟩ := Option.map_eq_some_iff.mp hd
  exact (h.device hrow).id_eq

theorem RowsAgree.storable (h : RowsAgree t) {id : String} {d : Device}
    (hd : t.contents.get? id = some d) : d.Storable := by
  obtain rfl := h.id_eq_of_contents hd
  rw [get?_contents] at hd
  obtain ⟨row, hrow, hd⟩ := Option.map_eq_some_iff.mp hd
  have hdev := h.device hrow
  refine ⟨hdev.isRecord, ?_, ?_, fun r hr => ?_⟩
  · rw [← hd]
    exact hdev.expires
  · rw [← hd, h.map_id_whole hrow]
    exact hdev.nodup
  · rw [← hd, h.mem_resources_whole] at hr
    obtain ⟨r', hr', howner⟩ := hdev.owned r.id hr.1
    rw [hr.2] at hr'
    obtain rfl := Option.some.inj hr'
    exact ⟨howner, h.isResource hrow hr.1⟩

/-! ## Putting in and taking out -/

/-- A device that was put in comes back as it was. -/
theorem whole_insert (t : DeviceTables) {d : Device} (hd : d.Storable) :
    (t.insert d).whole (rowOf d) = d := by
  have hback : (d.resources.map (·.id)).filterMap (t.insert d).resources.get? = d.resources := by
    rw [List.filterMap_map]
    refine (List.filterMap_congr fun r hr => ?_).trans List.filterMap_some
    exact get?_resources_insert_of_mem hd hr
  rw [whole, rowOf, hback]

theorem RowsAgree.contents_insert (h : RowsAgree t) {d : Device} (hd : d.Storable) :
    (t.insert d).contents = t.contents.insert d.id d := by
  refine Table.ext_get? fun id => ?_
  rw [get?_contents, get?_devices_insert, Table.get?_insert]
  by_cases hid : d.id = id
  · rw [if_pos hid, if_pos hid, Option.map_some, whole_insert t hd]
  · rw [if_neg hid, if_neg hid, get?_contents]
    refine Option.map_congr fun row hrow => whole_congr fun rid hrid => ?_
    exact get?_resources_insert_of_isResource hd (Ne.symm hid) (h.isResource hrow hrid)

theorem RowsAgree.contents_without (h : RowsAgree t) {id : String} {row : StoredDevice}
    (hrow : t.devices.get? id = some row) :
    (t.without id row).contents = t.contents.erase id := by
  refine Table.ext_get? fun other => ?_
  rw [get?_contents, get?_devices_without, Table.get?_erase]
  by_cases hid : id = other
  · rw [if_pos hid, if_pos hid]
    rfl
  · rw [if_neg hid, if_neg hid, get?_contents]
    refine Option.map_congr fun row' hrow' => whole_congr fun rid hrid => ?_
    exact h.get?_resources_without hrow hid (h.isResource hrow' hrid)

/-- Removing gives back the whole device, and the tables without it. -/
theorem RowsAgree.remove (h : RowsAgree t) (id : String) :
    t.remove id = (t.devices.get? id).map fun row => (t.whole row, t.without id row) := by
  rw [DeviceTables.remove]
  refine Option.map_congr fun row hrow => ?_
  rw [(h.device hrow).bare, List.nil_append]
  rfl

end EdgeCatalog.DeviceTables
