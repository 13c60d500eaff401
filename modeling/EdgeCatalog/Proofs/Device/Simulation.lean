import Mathlib
import EdgeCatalog.Store.DeviceStore
import EdgeCatalog.Proofs.Device.Contents
import EdgeCatalog.Proofs.Device.Map
import EdgeCatalog.Proofs.Expiry

/-! The device store follows the plain map. Tables stand for a map when their rows agree, their
indexes are those of the rows, and the rows joined again are the map. Every operation that writes
gives the result that the map gives, and leaves tables that stand for the map it leaves. -/
namespace EdgeCatalog

open DeviceStore (own)

@[simp] theorem DeviceStore.map_id_own (id : String) (resources : List Resource) :
    (own id resources).map (·.id) = resources.map (·.id) := by
  simp [own, Function.comp_def]

theorem DeviceMap.storable_stamped {id : String} (hid : Id.IsRecord id) {now : Instant} {d : Device}
    {expires : Option Instant} (hexpires : Expiry.expiryFor now d.ttl = .ok expires)
    (hown : OwnIds id (d.resources.map (·.id))) (created : Instant) :
    (stamped id created now expires d).Storable where
  isRecord := hid
  expires := hexpires
  nodup := by
    show ((d.resources.map fun r => { r with device := id }).map (·.id)).Nodup
    rw [List.map_map]
    exact hown.2
  owned r hr := by
    obtain ⟨r', hr', rfl⟩ := List.mem_map.mp hr
    exact ⟨rfl, hown.1 r'.id (List.mem_map_of_mem hr')⟩

namespace DeviceTables

variable {t : DeviceTables} {m : Table Device}

/-- The tables hold what the map holds, in rows that agree and with indexes that are up to date. -/
structure Stands (t : DeviceTables) (m : Table Device) : Prop where
  rows : t.RowsAgree
  indexed : t.reindex = t
  contents : t.contents = m

theorem Stands.empty : Stands {} ∅ :=
  ⟨.empty, rfl, rfl⟩

/-- Rebuilding the indexes is all that rows need. -/
theorem RowsAgree.stands_reindex (h : t.RowsAgree) : t.reindex.Stands t.contents :=
  ⟨h.reindex, rfl, contents_reindex⟩

theorem Stands.contains (h : t.Stands m) (id : String) : t.devices.contains id = m.contains id := by
  rw [← h.contents, DeviceTables.contents, Table.contains_map]

theorem Stands.get? (h : t.Stands m) (id : String) :
    (t.devices.get? id).map t.whole = m.get? id := by
  rw [← h.contents, get?_contents]

/-- A resource that passes the check of its id never belongs to another device already. -/
theorem RowsAgree.checkResources (h : t.RowsAgree) {owner : String} (ho : Id.IsRecord owner)
    (seen : List String) (resources : List Resource) :
    t.checkResources owner seen resources =
      match DeviceMap.fault? owner seen (resources.map (·.id)) with
      | none => .ok ()
      | some fault => .error (.invalid fault) := by
  induction resources generalizing seen with
  | nil => rfl
  | cons r rest ih =>
    rw [DeviceTables.checkResources, List.map_cons, DeviceMap.fault?]
    by_cases hname : Id.IsResource owner r.id
    · rw [(Id.checkResource_eq_ok_iff ho).mpr hname, if_neg (not_not_intro hname)]
      by_cases hseen : r.id ∈ seen
      · rw [if_pos hseen, if_pos hseen]
      · rw [if_neg hseen, if_neg hseen]
        cases hr : t.resources.get? r.id with
        | none => exact ih _
        | some existing =>
          have howner : existing.device = owner :=
            (h.resource hr).isResource.owner_unique hname
          dsimp only
          rw [if_neg (not_not_intro howner)]
          exact ih _
    · rw [Id.checkResource_of_not ho hname, if_pos hname]

theorem RowsAgree.checkResources_own (h : t.RowsAgree) {owner : String} (ho : Id.IsRecord owner)
    (resources : List Resource) :
    t.checkResources owner [] (own owner resources) =
      if hown : DeviceMap.OwnIds owner (resources.map (·.id)) then .ok ()
      else .error (.invalid (DeviceMap.firstFault owner (resources.map (·.id)) hown)) := by
  rw [h.checkResources ho, DeviceStore.map_id_own]
  split
  · rename_i hnone
    have hown : DeviceMap.OwnIds owner (resources.map (·.id)) := by
      by_contra hnot
      rw [← DeviceMap.fault?_isSome_iff, hnone] at hnot
      cases hnot
    rw [dif_pos hown]
  · rename_i fault hsome
    have hnot : ¬DeviceMap.OwnIds owner (resources.map (·.id)) := by
      rw [← DeviceMap.fault?_isSome_iff, hsome]
      rfl
    rw [dif_neg hnot]
    simp only [DeviceMap.firstFault, hsome, Option.get_some]

/-! ## Writing -/

/-- A device under a new id. -/
theorem Stands.insert (h : t.Stands m) {d : Device} (hd : d.Storable)
    (hnew : t.devices.get? d.id = none) : (t.insert d).reindex.Stands (m.insert d.id d) := by
  have hs := (h.rows.insert hd hnew).stands_reindex
  rwa [h.rows.contents_insert hd, h.contents] at hs

theorem Stands.without (h : t.Stands m) {id : String} {row : StoredDevice}
    (hrow : t.devices.get? id = some row) : (t.without id row).reindex.Stands (m.erase id) := by
  have hs := (h.rows.without hrow).stands_reindex
  rwa [h.rows.contents_without hrow, h.contents] at hs

/-- A device in place of the one under the same id. -/
theorem Stands.replace (h : t.Stands m) {d : Device} (hd : d.Storable) {row : StoredDevice}
    (hrow : t.devices.get? d.id = some row) :
    ((t.without d.id row).insert d).reindex.Stands (m.insert d.id d) := by
  have hout := h.rows.without hrow
  have hnew : (t.without d.id row).devices.get? d.id = none := by
    rw [get?_devices_without, if_pos rfl]
  have hs := (hout.insert hd hnew).stands_reindex
  rwa [hout.contents_insert hd, h.rows.contents_without hrow, h.contents, Table.insert_erase] at hs

/-- Taking devices out one after the other erases their ids. -/
theorem RowsAgree.removeAll (h : t.RowsAgree) (ids : List String) :
    (DeviceStore.removeAll t ids).1.RowsAgree ∧
      (DeviceStore.removeAll t ids).1.contents = ids.foldl Table.erase t.contents := by
  induction ids generalizing t with
  | nil => exact ⟨h, rfl⟩
  | cons id rest ih =>
    rw [DeviceStore.removeAll, h.remove, List.foldl_cons]
    cases hrow : t.devices.get? id with
    | none =>
      have hsame : t.contents.erase id = t.contents := by
        refine Table.ext_get? fun other => ?_
        rw [Table.get?_erase]
        split
        · rename_i hid
          rw [← hid, get?_contents, hrow]
          rfl
        · rfl
      rw [hsame]
      exact ih h
    | some row =>
      rw [← h.contents_without hrow]
      exact ih (h.without hrow)

end DeviceTables

namespace DeviceStore

open DeviceTables (Stands)

variable {s : DeviceStore} {m : Table Device}

theorem add_simulates (h : s.tables.Stands m) (now : Instant) (d : Device) :
    (s.add now d).result = (DeviceMap.add m now d).1 ∧
      (s.add now d).store.tables.Stands (DeviceMap.add m now d).2 := by
  rw [add, DeviceMap.add]
  by_cases hid : Id.IsRecord d.id
  · rw [Id.checkRecord_eq_ok_iff.mpr hid, if_pos hid]
    dsimp only
    cases hexpires : Expiry.expiryFor now d.ttl with
    | error e =>
      obtain rfl := Expiry.expiryFor_error hexpires
      exact ⟨rfl, h⟩
    | ok expires =>
      dsimp only
      by_cases hin : m.contains d.id = true
      · rw [if_pos hin, if_pos (by rw [h.contains, hin])]
        exact ⟨rfl, h⟩
      · rw [if_neg hin, if_neg (by rw [h.contains]; exact hin), h.rows.checkResources_own hid]
        by_cases hown : DeviceMap.OwnIds d.id (d.resources.map (·.id))
        · rw [dif_pos hown, dif_pos hown]
          have hnew : s.tables.devices.get? d.id = none := by
            rw [← h.contains, Table.contains, Bool.not_eq_true, Option.isSome_eq_false_iff,
              Option.isNone_iff_eq_none] at hin
            exact hin
          exact ⟨rfl, h.insert (DeviceMap.storable_stamped hid hexpires hown now) hnew⟩
        · rw [dif_neg hown, dif_neg hown]
          exact ⟨rfl, h⟩
  · rw [Id.checkRecord_of_not hid, if_neg hid]
    exact ⟨rfl, h⟩

theorem update_simulates (h : s.tables.Stands m) (now : Instant) (id : String) (d : Device) :
    (s.update now id d).result = (DeviceMap.update m now id d).1 ∧
      (s.update now id d).store.tables.Stands (DeviceMap.update m now id d).2 := by
  rw [update, DeviceMap.update]
  cases hexpires : Expiry.expiryFor now d.ttl with
  | error e =>
    obtain rfl := Expiry.expiryFor_error hexpires
    exact ⟨rfl, h⟩
  | ok expires =>
    dsimp only
    rw [← h.get? id]
    cases hrow : s.tables.devices.get? id with
    | none => exact ⟨rfl, h⟩
    | some row =>
      have hid := (h.rows.device hrow).isRecord
      dsimp only [Option.map_some]
      rw [h.rows.checkResources_own hid]
      by_cases hown : DeviceMap.OwnIds id (d.resources.map (·.id))
      · rw [dif_pos hown, dif_pos hown, h.rows.remove, hrow]
        exact ⟨rfl, h.replace (DeviceMap.storable_stamped hid hexpires hown _) hrow⟩
      · rw [dif_neg hown, dif_neg hown]
        exact ⟨rfl, h⟩

theorem delete_simulates (h : s.tables.Stands m) (id : String) :
    (s.delete id).result = (DeviceMap.delete m id).1 ∧
      (s.delete id).store.tables.Stands (DeviceMap.delete m id).2 := by
  rw [delete, DeviceMap.delete, h.rows.remove, ← h.get? id]
  cases hrow : s.tables.devices.get? id with
  | none => exact ⟨rfl, h⟩
  | some row => exact ⟨rfl, h.without hrow⟩

/-! ### The sweep -/

theorem expiredIds_eq (h : s.tables.Stands m) (now : Instant) :
    s.expiredIds now = (m.values.filter (·.isExpired now)).map (·.id) := by
  rw [expiredIds, ← h.contents, DeviceTables.contents, Table.values_map, List.filter_map,
    List.map_map]
  -- joining a device with its resources touches neither its id nor its expiry
  rfl

theorem length_expiredIds (h : s.tables.Stands m) (now : Instant) :
    (s.expiredIds now).length = (m.filter (·.isExpired now)).size := by
  rw [expiredIds_eq h, List.length_map, Table.size_filter]

/-- Erasing the ids of what has expired leaves what has not. -/
theorem foldl_erase_expiredIds (h : s.tables.Stands m) (now : Instant) :
    (s.expiredIds now).foldl Table.erase m = m.filter (!·.isExpired now) := by
  rw [expiredIds_eq h]
  refine Table.foldl_erase_filter (fun hd => ?_) _
  rw [← h.contents] at hd
  exact h.rows.id_eq_of_contents hd

theorem cleanExpired_simulates (h : s.tables.Stands m) (now : Instant) :
    (s.cleanExpired now).removed = (DeviceMap.cleanExpired m now).1 ∧
      (s.cleanExpired now).store.tables.Stands (DeviceMap.cleanExpired m now).2 := by
  rw [DeviceMap.cleanExpired, ← length_expiredIds h, ← foldl_erase_expiredIds h]
  rw [cleanExpired]
  by_cases hempty : (s.expiredIds now).isEmpty = true
  · rw [if_pos hempty, List.isEmpty_iff.mp hempty]
    exact ⟨rfl, h⟩
  · rw [if_neg hempty]
    obtain ⟨hrows, hcontents⟩ := h.rows.removeAll (s.expiredIds now)
    refine ⟨rfl, ?_⟩
    rw [← h.contents, ← hcontents]
    exact hrows.stands_reindex

end DeviceStore

end EdgeCatalog
