import Mathlib
import EdgeCatalog.Proofs.Device.Grouping

/-! Paging units. The units of a store are those of its devices: one for every resource, and one for
a device that has none. Any units of the index can be shown, and what is shown of them counts as
many units as they are. -/
namespace EdgeCatalog.DeviceTables

variable {t : DeviceTables} {m : Table Device} {key : String} {keys : List String}

/-- The device that a unit belongs to. -/
def ownerOf (t : DeviceTables) (key : String) : String :=
  ((t.resources.get? key).map (·.device)).getD key

/-- A unit with its owner. -/
def unit (t : DeviceTables) (key : String) : String × Option Resource :=
  (t.ownerOf key, t.resources.get? key)

/-- What is shown of the devices that units belong to. -/
def shown (t : DeviceTables) (keys : List String) : List Device :=
  t.grouped (keys.map t.unit)

/-! ## One unit -/

theorem ownerOf_of_none (hr : t.resources.get? key = none) : t.ownerOf key = key := by
  rw [ownerOf, hr]
  rfl

theorem ownerOf_of_some {r : Resource} (hr : t.resources.get? key = some r) :
    t.ownerOf key = r.device := by
  rw [ownerOf, hr]
  rfl

/-- A unit that is no resource is a device without any. -/
theorem Stands.bare_of_mem (h : t.Stands m) (hk : key ∈ t.units.keys)
    (hr : t.resources.get? key = none) :
    ∃ row, t.devices.get? key = some row ∧ row.resourceIds = [] := by
  refine (h.mem_units.mp hk).resolve_left fun hin => ?_
  rw [Table.contains, hr] at hin
  cases hin

theorem Stands.stored_ownerOf (h : t.Stands m) (hk : key ∈ t.units.keys) :
    ∃ row, t.devices.get? (t.ownerOf key) = some row := by
  cases hr : t.resources.get? key with
  | none =>
    obtain ⟨row, hrow, -⟩ := h.bare_of_mem hk hr
    rw [ownerOf_of_none hr]
    exact ⟨row, hrow⟩
  | some r =>
    obtain ⟨row, hrow, -⟩ := (h.rows.resource hr).listed
    rw [ownerOf_of_some hr]
    exact ⟨row, hrow⟩

theorem Stands.unitOf_eq (h : t.Stands m) (hk : key ∈ t.units.keys) :
    t.unitOf key = .ok (t.unit key) := by
  rw [unitOf, unit]
  cases hr : t.resources.get? key with
  | none =>
    obtain ⟨row, hrow, -⟩ := h.bare_of_mem hk hr
    have hin : t.devices.contains key = true := Table.contains_iff.mpr ⟨row, hrow⟩
    rw [ownerOf_of_none hr]
    exact if_pos hin
  | some r =>
    rw [ownerOf_of_some hr]

/-- A device without resources has no other unit than its id. -/
theorem Stands.eq_of_ownerOf (h : t.Stands m) (hk : key ∈ t.units.keys)
    (hr : t.resources.get? key = none) {other : String} (ho : t.ownerOf other = key) :
    other = key := by
  cases hother : t.resources.get? other with
  | none => rwa [ownerOf_of_none hother] at ho
  | some r =>
    obtain ⟨row, hrow, hempty⟩ := h.bare_of_mem hk hr
    obtain ⟨row', hrow', hlisted⟩ := (h.rows.resource hother).listed
    rw [ownerOf_of_some hother] at ho
    rw [ho, hrow] at hrow'
    obtain rfl := Option.some.inj hrow'
    rw [hempty] at hlisted
    exact absurd hlisted List.not_mem_nil

/-! ## All units -/

theorem length_unitsOf (d : Device) : (unitsOf d).length = max 1 d.resources.length := by
  rw [unitsOf]
  split
  · rename_i hempty
    rw [List.isEmpty_iff.mp hempty]
    rfl
  · rename_i hsome
    rw [length_sortKeys, List.length_map]
    have hpos := List.length_pos_iff.mpr (mt List.isEmpty_iff.mpr hsome)
    omega

/-- The units of devices are their resources and the ids of those that have none. -/
theorem flatMap_unitsOf_perm (devices : List Device) :
    (devices.flatMap unitsOf).Perm
      ((devices.flatMap (·.resources)).map (·.id) ++
        (devices.filter (·.resources.isEmpty)).map (·.id)) := by
  induction devices with
  | nil => exact List.Perm.refl _
  | cons d rest ih =>
    rw [List.flatMap_cons, List.flatMap_cons, List.map_append, List.filter_cons, unitsOf]
    by_cases hempty : d.resources.isEmpty = true
    · rw [if_pos hempty, if_pos hempty, List.isEmpty_iff.mp hempty]
      exact (ih.cons d.id).trans List.perm_middle.symm
    · rw [if_neg hempty, if_neg hempty, List.append_assoc]
      exact (sortKeys_perm _).append ih

theorem Stands.bareIds_eq (h : t.Stands m) :
    t.bareIds = (m.values.filter (·.resources.isEmpty)).map (·.id) := by
  have hrow {e : String × StoredDevice} (he : e ∈ t.devices.entries) :
      t.devices.get? e.1 = some e.2 := t.devices.get?_eq_some_iff.mpr he
  rw [bareIds, ← h.contents, DeviceTables.contents, Table.values_map, Table.values, List.map_map,
    List.filter_map, List.map_map]
  have hempty : ∀ e ∈ t.devices.entries,
      e.2.resourceIds.isEmpty = (t.whole e.2).resources.isEmpty := by
    intro e he
    rw [← h.rows.map_id_whole (hrow he), List.isEmpty_map]
  rw [List.filter_congr hempty]
  refine List.map_congr_left fun e he => ?_
  exact (h.rows.device (hrow (List.mem_of_mem_filter he))).id_eq.symm

theorem Stands.mem_bareIds_iff (h : t.Stands m) {d : Device} (hd : d ∈ m.values) :
    d.id ∈ t.bareIds ↔ d.resources = [] := by
  obtain ⟨row, hrow, rfl⟩ := h.mem_values.mp hd
  rw [mem_bareIds, ← List.map_eq_nil_iff, h.rows.map_id_whole hrow]
  constructor
  · rintro ⟨row', hrow', hempty⟩
    obtain rfl := Option.some.inj (hrow.symm.trans hrow')
    exact hempty
  · exact fun hempty => ⟨row, hrow, hempty⟩

/-- The resources of a device have distinct ids. -/
theorem Stands.nodup_resourceIds (h : t.Stands m) {d : Device} (hd : d ∈ m.values) :
    (d.resources.map (·.id)).Nodup := by
  obtain ⟨row, hrow, rfl⟩ := h.mem_values.mp hd
  rw [h.rows.map_id_whole hrow]
  exact (h.rows.device hrow).nodup

theorem Stands.units_perm (h : t.Stands m) : t.units.keys.Perm (m.values.flatMap unitsOf) := by
  have hresources : ((m.values.flatMap (·.resources)).map (·.id)).Perm t.resources.keys := by
    have hids := h.map_id_resources
    rw [DeviceMap.resources] at hids
    rw [hids]
    exact h.rows.listed_perm
  rw [h.units_keys, h.bareIds_eq]
  refine (sortKeys_perm _).trans ?_
  exact (hresources.symm.append_right _).trans (flatMap_unitsOf_perm m.values).symm

/-- Every device has a unit. -/
theorem Stands.exists_unit (h : t.Stands m) {id : String} {row : StoredDevice}
    (hrow : t.devices.get? id = some row) : ∃ key ∈ t.units.keys, t.ownerOf key = id := by
  cases hids : row.resourceIds with
  | nil =>
    have hnone := h.rows.get?_resources_of_bare (mem_bareIds.mpr ⟨row, hrow, hids⟩)
    exact ⟨id, h.mem_units.mpr (.inr ⟨row, hrow, hids⟩), ownerOf_of_none hnone⟩
  | cons rid rest =>
    obtain ⟨r, hr, howner⟩ := (h.rows.device hrow).owned rid (hids ▸ List.mem_cons_self)
    refine ⟨rid, h.mem_units.mpr (.inl (Table.contains_iff.mpr ⟨r, hr⟩)), ?_⟩
    rw [ownerOf_of_some hr, howner]

/-- The number of units that a listing of devices counts. -/
def unitCount (devices : List Device) : Nat :=
  (devices.map fun d => max 1 d.resources.length).sum

theorem Stands.length_units (h : t.Stands m) : t.units.keys.length = unitCount m.values := by
  rw [h.units_perm.length_eq, List.length_flatMap, unitCount]
  exact congrArg List.sum (List.map_congr_left fun d _ => length_unitsOf d)

/-! ## What is shown of units -/

theorem mapM_eq_ok {α β ε : Type} {f : α → Except ε β} {g : α → β} {l : List α}
    (h : ∀ a ∈ l, f a = .ok (g a)) : l.mapM f = .ok (l.map g) := by
  induction l with
  | nil => rfl
  | cons a rest ih =>
    rw [List.mapM_cons, h a List.mem_cons_self, ih fun b hb => h b (List.mem_cons_of_mem a hb)]
    rfl

theorem Stands.stored_unit (h : t.Stands m) (hk : keys ⊆ t.units.keys) :
    ∀ u ∈ keys.map t.unit, ∃ row, t.devices.get? u.1 = some row := by
  intro u hu
  obtain ⟨key, hkey, rfl⟩ := List.mem_map.mp hu
  exact h.stored_ownerOf (hk hkey)

/-- Units of the index can be shown. -/
theorem Stands.devicesFromUnits_eq (h : t.Stands m) (hk : keys ⊆ t.units.keys) :
    t.devicesFromUnits keys = .ok (t.shown keys) := by
  have hunits : keys.mapM t.unitOf = .ok (keys.map t.unit) :=
    mapM_eq_ok fun key hkey => h.unitOf_eq (hk hkey)
  rw [devicesFromUnits, hunits]
  exact reconcile_eq (h.stored_unit hk)

theorem Stands.map_id_shown (h : t.Stands m) (hk : keys ⊆ t.units.keys) :
    (t.shown keys).map (·.id) = (keys.map t.ownerOf).eraseDups := by
  rw [shown, h.rows.map_id_grouped (h.stored_unit hk), List.map_map]
  rfl

theorem Stands.nodup_shown (h : t.Stands m) (hk : keys ⊆ t.units.keys) :
    ((t.shown keys).map (·.id)).Nodup := by
  rw [h.map_id_shown hk]
  exact nodup_eraseDups _

/-- All resources among the units are shown, once each. -/
theorem resources_shown (t : DeviceTables) (keys : List String) :
    ((t.shown keys).flatMap (·.resources)).Perm (keys.filterMap t.resources.get?) := by
  have hperm := flatMap_resources_grouped t (keys.map t.unit)
  rw [List.filterMap_map] at hperm
  exact hperm

/-- The resources of a device among the units, in the order of the units. -/
def resourcesAmong (t : DeviceTables) (keys : List String) (id : String) : List Resource :=
  (keys.filter (t.ownerOf · = id)).filterMap t.resources.get?

theorem given_unit (t : DeviceTables) (keys : List String) (id : String) :
    given (keys.map t.unit) id = t.resourcesAmong keys id := by
  rw [given, List.filter_map, List.filterMap_map]
  rfl

theorem Stands.filter_shown (h : t.Stands m) (hk : keys ⊆ t.units.keys) (id : String) :
    ((t.shown keys).filter (·.id = id)).flatMap (·.resources) = t.resourcesAmong keys id := by
  rw [shown, h.rows.filter_grouped (h.stored_unit hk), given_unit]

/-- What is shown are the owners of the units, with the resources among the units. -/
theorem Stands.mem_shown (h : t.Stands m) (hk : keys ⊆ t.units.keys) {d : Device} :
    d ∈ t.shown keys ↔ ∃ id row, id ∈ keys.map t.ownerOf ∧ t.devices.get? id = some row ∧
      d = { t.whole row with resources := t.resourcesAmong keys id } := by
  rw [shown, grouped, List.map_map, List.mem_map]
  constructor
  · rintro ⟨id, hid, rfl⟩
    rw [List.mem_eraseDups] at hid
    obtain ⟨key, hkey, rfl⟩ := List.mem_map.mp hid
    obtain ⟨row, hrow⟩ := h.stored_ownerOf (hk hkey)
    refine ⟨t.ownerOf key, row, List.mem_map_of_mem hkey, hrow, ?_⟩
    show t.fragment (t.ownerOf key) _ = _
    rw [fragment, hrow, given_unit]
    rfl
  · rintro ⟨id, row, hid, hrow, rfl⟩
    refine ⟨id, List.mem_eraseDups.mpr hid, ?_⟩
    rw [fragment, hrow, given_unit]
    rfl

/-- What is shown is a stored device, but for the resources that are not among the units. -/
theorem Stands.stored_of_mem_shown (h : t.Stands m) (hk : keys ⊆ t.units.keys) {part : Device}
    (hpart : part ∈ t.shown keys) : ∃ d, m.get? part.id = some d ∧
      part = { d with resources := t.resourcesAmong keys part.id } := by
  obtain ⟨id, row, -, hrow, rfl⟩ := (h.mem_shown hk).mp hpart
  obtain rfl : (t.whole row).id = id := (h.rows.device hrow).id_eq
  exact ⟨t.whole row, by rw [← h.get?, hrow, Option.map_some], rfl⟩

/-- A device counts as many units as it has among those that are shown. -/
theorem Stands.length_resourcesAmong (h : t.Stands m) (hk : keys ⊆ t.units.keys)
    (hd : keys.Nodup) {id : String} (hid : id ∈ keys.map t.ownerOf) :
    max 1 (t.resourcesAmong keys id).length = (keys.filter (t.ownerOf · = id)).length := by
  obtain ⟨key, hkey, rfl⟩ := List.mem_map.mp hid
  rw [resourcesAmong]
  by_cases hbare : ∃ bare ∈ keys, t.ownerOf bare = t.ownerOf key ∧ t.resources.get? bare = none
  · obtain ⟨bare, hin, howner, hr⟩ := hbare
    rw [← howner, ownerOf_of_none hr]
    have hself : ∀ other ∈ keys, decide (t.ownerOf other = bare) = decide (other = bare) := by
      intro other _
      refine decide_eq_decide.mpr ⟨h.eq_of_ownerOf (hk hin) hr, ?_⟩
      rintro rfl
      exact ownerOf_of_none hr
    rw [List.filter_congr hself, List.filter_eq, List.count_eq_one_of_mem hd hin]
    simp [hr]
  · have hsome : ∀ other ∈ keys.filter (t.ownerOf · = t.ownerOf key),
        (t.resources.get? other).isSome = true := by
      intro other ho
      obtain ⟨hin, howner⟩ := List.mem_filter.mp ho
      refine Option.isSome_iff_ne_none.mpr fun hr => hbare ⟨other, hin, ?_, hr⟩
      exact of_decide_eq_true howner
    rw [List.filterMap_length_eq_length.mpr hsome]
    have hself : key ∈ keys.filter (t.ownerOf · = t.ownerOf key) :=
      List.mem_filter.mpr ⟨hkey, decide_eq_true rfl⟩
    exact max_eq_right (List.length_pos_of_mem hself)

/-- What is shown counts as many units as there are. -/
theorem Stands.unitCount_shown (h : t.Stands m) (hk : keys ⊆ t.units.keys) (hd : keys.Nodup) :
    unitCount (t.shown keys) = keys.length := by
  have hgroups := flatMap_filter_perm (nodup_eraseDups (keys.map t.ownerOf)) (f := t.ownerOf)
    fun key (hkey : key ∈ keys) => List.mem_eraseDups.mpr (List.mem_map_of_mem hkey)
  rw [← hgroups.length_eq, List.length_flatMap, unitCount, shown, grouped, List.map_map,
    List.map_map]
  refine congrArg List.sum (List.map_congr_left fun id hid => ?_)
  rw [← h.length_resourcesAmong hk hd (List.mem_eraseDups.mp hid), ← given_unit]
  rfl

/-! ## Devices without resources -/

theorem mem_resourcesAmong {id : String} {r : Resource} :
    r ∈ t.resourcesAmong keys id ↔
      ∃ key ∈ keys, t.ownerOf key = id ∧ t.resources.get? key = some r := by
  rw [resourcesAmong, List.mem_filterMap]
  constructor
  · rintro ⟨key, hkey, hr⟩
    obtain ⟨hin, howner⟩ := List.mem_filter.mp hkey
    exact ⟨key, hin, of_decide_eq_true howner, hr⟩
  · rintro ⟨key, hin, howner, hr⟩
    exact ⟨key, List.mem_filter.mpr ⟨hin, decide_eq_true howner⟩, hr⟩

theorem Stands.resourcesAmong_bare (h : t.Stands m) (hk : keys ⊆ t.units.keys) (hkey : key ∈ keys)
    (hr : t.resources.get? key = none) : t.resourcesAmong keys key = [] := by
  refine List.eq_nil_iff_forall_not_mem.mpr fun r hin => ?_
  obtain ⟨other, -, howner, hother⟩ := mem_resourcesAmong.mp hin
  rw [h.eq_of_ownerOf (hk hkey) hr howner, hr] at hother
  cases hother

/-- The units that are no resources. -/
def bareAmong (t : DeviceTables) (keys : List String) : List String :=
  keys.filter fun key => (t.resources.get? key).isNone

theorem mem_bareAmong : key ∈ t.bareAmong keys ↔ key ∈ keys ∧ t.resources.get? key = none := by
  rw [bareAmong, List.mem_filter, Option.isNone_iff_eq_none]

/-- The units that are no resources are shown as devices without any, and nothing else is. -/
theorem Stands.bare_shown (h : t.Stands m) (hk : keys ⊆ t.units.keys) (hd : keys.Nodup) :
    ((t.shown keys).filter (·.resources.isEmpty)).Perm
      ((t.bareAmong keys).map fun key => t.fragment key []) := by
  have hids : ((t.bareAmong keys).map fun key => t.fragment key []).map (·.id) =
      t.bareAmong keys := by
    rw [List.map_map]
    refine (List.map_congr_left fun key hkey => ?_).trans (List.map_id _)
    obtain ⟨hin, hr⟩ := mem_bareAmong.mp hkey
    obtain ⟨row, hrow, -⟩ := h.bare_of_mem (hk hin) hr
    exact h.rows.id_fragment hrow []
  have hnodup : ((t.bareAmong keys).map fun key => t.fragment key []).Nodup := by
    refine List.Nodup.of_map (·.id) ?_
    rw [hids]
    exact hd.filter _
  refine (List.perm_ext_iff_of_nodup ((h.nodup_shown hk).of_map.filter _) hnodup).mpr fun d => ?_
  rw [List.mem_filter, h.mem_shown hk, List.mem_map]
  constructor
  · rintro ⟨⟨id, row, hid, hrow, rfl⟩, hempty⟩
    obtain ⟨key, hin, rfl⟩ := List.mem_map.mp hid
    have hnone := List.eq_nil_iff_forall_not_mem.mp (List.isEmpty_iff.mp hempty)
    have hr : t.resources.get? key = none := by
      refine Option.eq_none_iff_forall_ne_some.mpr fun r hr => hnone r ?_
      exact mem_resourcesAmong.mpr ⟨key, hin, rfl, hr⟩
    rw [ownerOf_of_none hr] at hrow ⊢
    refine ⟨key, mem_bareAmong.mpr ⟨hin, hr⟩, ?_⟩
    rw [fragment, hrow, h.resourcesAmong_bare hk hin hr]
    rfl
  · rintro ⟨key, hkey, rfl⟩
    obtain ⟨hin, hr⟩ := mem_bareAmong.mp hkey
    obtain ⟨row, hrow, -⟩ := h.bare_of_mem (hk hin) hr
    refine ⟨⟨key, row, ?_, hrow, ?_⟩, rfl⟩
    · exact List.mem_map.mpr ⟨key, hin, ownerOf_of_none hr⟩
    · rw [fragment, hrow, h.resourcesAmong_bare hk hin hr]
      rfl

/-- All units that are no resources are all devices without any. -/
theorem Stands.bareAmong_units (h : t.Stands m) :
    ((t.bareAmong t.units.keys).map fun key => t.fragment key []).Perm
      (m.values.filter (·.resources.isEmpty)) := by
  have hresources : t.bareAmong t.resources.keys = [] := by
    refine List.filter_eq_nil_iff.mpr fun key hkey hnone => ?_
    obtain ⟨r, hr⟩ := Table.contains_iff.mp (Table.mem_keys_iff.mp hkey)
    rw [hr] at hnone
    cases hnone
  have hbare : t.bareAmong t.bareIds = t.bareIds := by
    refine List.filter_eq_self.mpr fun key hkey => ?_
    rw [h.rows.get?_resources_of_bare hkey]
    rfl
  have hunits : (t.bareAmong t.units.keys).Perm t.bareIds := by
    have hsorted := (sortKeys_perm (t.resources.keys ++ t.bareIds)).filter
      fun key => (t.resources.get? key).isNone
    rw [← h.units_keys, List.filter_append] at hsorted
    change (t.bareAmong _).Perm (t.bareAmong _ ++ t.bareAmong _) at hsorted
    rwa [hresources, hbare, List.nil_append] at hsorted
  have hback : t.bareIds.map (fun key => t.fragment key []) =
      m.values.filter (·.resources.isEmpty) := by
    rw [h.bareIds_eq, List.map_map]
    refine (List.map_congr_left fun d hd => ?_).trans (List.map_id _)
    obtain ⟨hin, hempty⟩ := List.mem_filter.mp hd
    obtain ⟨row, hrow, rfl⟩ := h.mem_values.mp hin
    show t.fragment (t.whole row).id [] = t.whole row
    rw [fragment, hrow, ← List.isEmpty_iff.mp hempty]
    rfl
  rw [← hback]
  exact hunits.map _

/-! ## The resources of all units -/

theorem Stands.resources_units (h : t.Stands m) :
    (t.units.keys.filterMap t.resources.get?).Perm (DeviceMap.resources m) := by
  have hbare : t.bareIds.filterMap t.resources.get? = [] := by
    exact List.filterMap_eq_nil_iff.mpr fun key hkey => h.rows.get?_resources_of_bare hkey
  have hsorted := (sortKeys_perm (t.resources.keys ++ t.bareIds)).filterMap t.resources.get?
  rw [← h.units_keys, List.filterMap_append, hbare, List.append_nil,
    Table.filterMap_get?_keys] at hsorted
  exact hsorted.trans h.resources_perm.symm

/-- The resources of a device come in the order of the units. -/
theorem Stands.pairwise_resourcesAmong (h : t.Stands m) (hk : keys.Pairwise (· < ·)) (id : String) :
    (t.resourcesAmong keys id).Pairwise fun r r' => r.id < r'.id := by
  rw [resourcesAmong, List.pairwise_filterMap]
  refine (hk.filter _).imp fun hlt r hr r' hr' => ?_
  rwa [(h.rows.resource hr).id_eq, (h.rows.resource hr').id_eq]

/-- All units of a device give it all of its resources. -/
theorem Stands.resourcesAmong_units (h : t.Stands m) {id : String} {d : Device}
    (hd : m.get? id = some d) : (t.resourcesAmong t.units.keys id).Perm d.resources := by
  have hwhole : d.resources.Nodup :=
    (h.nodup_resourceIds (Table.mem_values_iff.mpr ⟨id, hd⟩)).of_map (·.id)
  rw [← h.get?] at hd
  obtain ⟨row, hrow, rfl⟩ := Option.map_eq_some_iff.mp hd
  have hamong : (t.resourcesAmong t.units.keys id).Nodup := by
    refine List.Pairwise.imp ?_ (h.pairwise_resourcesAmong h.pairwise_units id)
    rintro r _ hlt rfl
    exact lt_irrefl _ hlt
  refine (List.perm_ext_iff_of_nodup hamong hwhole).mpr fun r => ?_
  rw [mem_resourcesAmong, h.rows.mem_resources_whole]
  constructor
  · rintro ⟨key, -, howner, hr⟩
    obtain ⟨rfl, -, row', hrow', hlisted⟩ := h.rows.resource hr
    rw [ownerOf_of_some hr] at howner
    rw [howner, hrow] at hrow'
    obtain rfl := Option.some.inj hrow'
    exact ⟨hlisted, hr⟩
  · rintro ⟨hlisted, hr⟩
    obtain ⟨r', hr', howner⟩ := (h.rows.device hrow).owned r.id hlisted
    obtain rfl := Option.some.inj (hr.symm.trans hr')
    refine ⟨r.id, h.mem_units.mpr (.inl (Table.contains_iff.mpr ⟨r, hr⟩)), ?_, hr⟩
    rw [ownerOf_of_some hr, howner]

theorem resourcesAmong_flatten (t : DeviceTables) (parts : List (List String)) (id : String) :
    t.resourcesAmong parts.flatten id = parts.flatMap (t.resourcesAmong · id) := by
  rw [resourcesAmong, List.filter_flatten, List.filterMap_flatten, List.map_map]
  rfl

end EdgeCatalog.DeviceTables
