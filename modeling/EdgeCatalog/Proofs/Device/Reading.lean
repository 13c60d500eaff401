import Mathlib
import EdgeCatalog.Proofs.Device.Refinement
import EdgeCatalog.Proofs.Device.Units
import EdgeCatalog.Proofs.Paging
import EdgeCatalog.Proofs.Query

/-! Reading a device store, in full: the result, the counters and the events of every call that
reads, given by the map that the tables stand for. A filter puts its query to every device in the
order of the ids; as the rows agree, it passes over none. -/
namespace EdgeCatalog

theorem mem_of_mapM_ok {α β : Type} {f : α → Except Error β} {l : List α} {found : List β}
    (h : l.mapM f = .ok found) {b : β} (hb : b ∈ found) : ∃ a ∈ l, f a = .ok b := by
  induction l generalizing found with
  | nil =>
    obtain rfl := Except.ok.inj h
    exact absurd hb List.not_mem_nil
  | cons a rest ih =>
    rw [List.mapM_cons] at h
    cases ha : f a with
    | error e =>
      rw [ha] at h
      cases h
    | ok first =>
      cases hrest : rest.mapM f with
      | error e =>
        rw [ha, hrest] at h
        cases h
      | ok others =>
        rw [ha, hrest] at h
        obtain rfl := Except.ok.inj h
        rcases List.mem_cons.mp hb with rfl | hb
        · exact ⟨a, List.mem_cons_self, ha⟩
        · obtain ⟨a', hin, ha'⟩ := ih hrest hb
          exact ⟨a', List.mem_cons_of_mem a hin, ha'⟩

/-- What goes wrong with a list goes wrong with one of its items. -/
theorem exists_of_mapM_error {α β : Type} {f : α → Except Error β} {l : List α} {e : Error}
    (h : l.mapM f = .error e) : ∃ a ∈ l, f a = .error e := by
  induction l with
  | nil => cases h
  | cons a rest ih =>
    rw [List.mapM_cons] at h
    cases ha : f a with
    | error fault =>
      rw [ha] at h
      obtain rfl : fault = e := Except.error.inj h
      exact ⟨a, List.mem_cons_self, ha⟩
    | ok first =>
      cases hrest : rest.mapM f with
      | error fault =>
        rw [ha, hrest] at h
        obtain rfl : fault = e := Except.error.inj h
        obtain ⟨a', hin, ha'⟩ := ih hrest
        exact ⟨a', List.mem_cons_of_mem a hin, ha'⟩
      | ok others =>
        rw [ha, hrest] at h
        cases h

namespace DeviceTables

variable {t : DeviceTables} {m : Table Device}

/-- The index lists the keys of the map, which are in order already. -/
theorem Stands.index_eq (h : t.Stands m) : t.index.keys = m.keys := by
  have hkeys : m.keys = t.devices.keys := by
    rw [← h.contents, DeviceTables.contents, Table.keys_map]
  rw [h.index_keys, hkeys]
  exact (eq_sortKeys (t.devices.pairwise_keys.imp le_of_lt) (List.Perm.refl _)).symm

/-- Every device is under its own id. -/
theorem Stands.id_eq (h : t.Stands m) {id : String} {d : Device} (hd : m.get? id = some d) :
    d.id = id :=
  h.rows.id_eq_of_contents (h.contents ▸ hd)

/-- A device of the map is found under its id. -/
theorem Stands.get?_of_mem (h : t.Stands m) {d : Device} (hd : d ∈ m.values) :
    m.get? d.id = some d := by
  obtain ⟨id, hd⟩ := Table.mem_values_iff.mp hd
  rwa [h.id_eq hd]

/-- Ids ascend through the map. -/
theorem Stands.pairwise_ids (h : t.Stands m) : m.values.Pairwise fun a b => a.id < b.id := by
  rw [← List.pairwise_map, m.map_values_eq_keys h.id_eq]
  exact m.pairwise_keys

/-- The units of stored devices are units of the index. -/
theorem Stands.units_subset (h : t.Stands m) {devices : List Device} (hd : devices ⊆ m.values) :
    devices.flatMap unitsOf ⊆ t.units.keys := by
  intro key hkey
  obtain ⟨d, hin, hkey⟩ := List.mem_flatMap.mp hkey
  exact h.units_perm.mem_iff.mpr (List.mem_flatMap.mpr ⟨d, hd hin, hkey⟩)

theorem length_flatMap_unitsOf (devices : List Device) :
    (devices.flatMap unitsOf).length = unitCount devices := by
  rw [List.length_flatMap, unitCount]
  exact congrArg List.sum (List.map_congr_left fun d _ => length_unitsOf d)

end DeviceTables

namespace DeviceStore

open DeviceTables (Stands unitCount)

variable {s : DeviceStore} {m : Table Device}

/-! ## Devices -/

theorem get_eq (h : s.tables.Stands m) (id : String) :
    s.get id =
      ⟨DeviceMap.get m id, { s with metrics := s.metrics.recordLookup (m.contains id) }, []⟩ := by
  rw [get, h.rows.assemble, h.contents, DeviceMap.get, Table.contains]
  cases m.get? id <;> rfl

/-- A page shows the units of its window, whatever units those are a window of. -/
theorem page_window (h : s.tables.Stands m) {units : List String} (hu : units ⊆ s.tables.units.keys)
    (page perPage : UInt64) :
    s.page (s.tables.devicesFromUnits (Paging.window units page perPage s.maxPerPage))
        units.length =
      ⟨.ok ⟨s.tables.shown (Paging.window units page perPage s.maxPerPage), units.length⟩, s,
        []⟩ := by
  have hin : Paging.window units page perPage s.maxPerPage ⊆ s.tables.units.keys :=
    fun _ hkey => hu ((Paging.window_sublist units page perPage s.maxPerPage).subset hkey)
  rw [h.devicesFromUnits_eq hin]
  rfl

theorem getMany_eq (h : s.tables.Stands m) (page perPage : UInt64) :
    s.getMany page perPage =
      ⟨.ok ⟨s.tables.shown (Paging.window s.tables.units.keys page perPage s.maxPerPage),
          unitCount m.values⟩,
        { s with metrics := s.metrics.recordListing }, []⟩ := by
  rw [← h.length_units]
  exact page_window (s := { s with metrics := s.metrics.recordListing }) h (List.Subset.refl _)
    page perPage

/-! ## Filters -/

/-- A device of the map can be read back, so it is not passed over. -/
theorem observe_assemble (h : s.tables.Stands m) {id : String} {d : Device}
    (hd : m.get? id = some d) : s.observe (s.tables.assemble id) = ⟨.ok d, s, []⟩ := by
  rw [h.rows.assemble, h.contents, hd]
  rfl

theorem firstMatch_entries (h : s.tables.Stands m) (q : Query) {entries : List (String × Device)}
    (he : ∀ e ∈ entries, m.get? e.1 = some e.2) :
    s.firstMatch q (entries.map Prod.fst) =
      ⟨q.first Device.toJson (entries.map Prod.snd), s, []⟩ := by
  induction entries with
  | nil => rfl
  | cons e rest ih =>
    have hrest := ih fun other ho => he other (List.mem_cons_of_mem e ho)
    rw [List.map_cons, List.map_cons, firstMatch, observe_assemble h (he e List.mem_cons_self),
      Query.first]
    dsimp only
    cases q.eval e.2.toJson with
    | error fault => rfl
    | ok hit =>
      cases hit with
      | true => rfl
      | false => exact hrest

theorem allMatches_entries (h : s.tables.Stands m) (q : Query) {entries : List (String × Device)}
    (he : ∀ e ∈ entries, m.get? e.1 = some e.2) :
    s.allMatches q (entries.map Prod.fst) =
      ⟨q.select Device.toJson (entries.map Prod.snd), s, []⟩ := by
  induction entries with
  | nil => rfl
  | cons e rest ih =>
    have hrest := ih fun other ho => he other (List.mem_cons_of_mem e ho)
    rw [List.map_cons, List.map_cons, allMatches, observe_assemble h (he e List.mem_cons_self),
      Query.select, hrest]
    dsimp only
    cases q.eval e.2.toJson <;> rfl

theorem firstMatch_eq (h : s.tables.Stands m) (q : Query) :
    s.firstMatch q s.tables.index.keys = ⟨q.first Device.toJson m.values, s, []⟩ := by
  rw [h.index_eq]
  exact firstMatch_entries h q fun e he => m.get?_eq_some_iff.mpr he

theorem allMatches_eq (h : s.tables.Stands m) (q : Query) :
    s.allMatches q s.tables.index.keys = ⟨q.select Device.toJson m.values, s, []⟩ := by
  rw [h.index_eq]
  exact allMatches_entries h q fun e he => m.get?_eq_some_iff.mpr he

theorem filterOne_eq (h : s.tables.Stands m) {path relation value : String} {q : Query}
    (hq : Query.parse path relation value = .ok q) :
    s.filterOne path relation value =
      ⟨q.search Device.toJson m.values (.matching .device path relation value),
        { s with metrics := s.metrics.recordQuery }, []⟩ := by
  rw [filterOne, hq]
  dsimp only
  rw [firstMatch_eq (s := { s with metrics := s.metrics.recordQuery }) h, Query.search]
  cases q.first Device.toJson m.values with
  | error e => rfl
  | ok found => cases found <;> rfl

section FilterMany

variable {path relation value : String} {q : Query}

theorem filterMany_eq (h : s.tables.Stands m) (hq : Query.parse path relation value = .ok q)
    (page perPage : UInt64) :
    s.filterMany path relation value page perPage =
      ⟨(q.select Device.toJson m.values).map fun found =>
          ⟨s.tables.shown (Paging.window (found.flatMap DeviceTables.unitsOf) page perPage
            s.maxPerPage), unitCount found⟩,
        { s with metrics := s.metrics.recordQuery }, []⟩ := by
  rw [filterMany, hq]
  dsimp only
  rw [allMatches_eq (s := { s with metrics := s.metrics.recordQuery }) h]
  cases hfound : q.select Device.toJson m.values with
  | error e => rfl
  | ok found =>
    have hin : found ⊆ m.values := (Query.sublist_of_select hfound).subset
    dsimp only
    rw [page_window (s := { s with metrics := s.metrics.recordQuery }) h (h.units_subset hin),
      DeviceTables.length_flatMap_unitsOf]
    rfl

theorem filterMany_error (h : s.tables.Stands m) (hq : Query.parse path relation value = .ok q)
    {e : Error} (he : q.select Device.toJson m.values = .error e) (page perPage : UInt64) :
    s.filterMany path relation value page perPage =
      ⟨.error e, { s with metrics := s.metrics.recordQuery }, []⟩ := by
  rw [filterMany_eq h hq, he]
  rfl

theorem filterMany_ok (h : s.tables.Stands m) (hq : Query.parse path relation value = .ok q)
    {found : List Device} (hfound : q.select Device.toJson m.values = .ok found)
    (page perPage : UInt64) :
    s.filterMany path relation value page perPage =
      ⟨.ok ⟨s.tables.shown (Paging.window (found.flatMap DeviceTables.unitsOf) page perPage
          s.maxPerPage), unitCount found⟩,
        { s with metrics := s.metrics.recordQuery }, []⟩ := by
  rw [filterMany_eq h hq, hfound]
  rfl

/-- A page that is shown tells what was selected. -/
theorem select_of_filterMany (h : s.tables.Stands m) {page perPage : UInt64} {shown : Page Device}
    (hshown : (s.filterMany path relation value page perPage).result = .ok shown) :
    ∃ q found, Query.parse path relation value = .ok q ∧
      q.select Device.toJson m.values = .ok found ∧
      shown = ⟨s.tables.shown (Paging.window (found.flatMap DeviceTables.unitsOf) page perPage
        s.maxPerPage), unitCount found⟩ := by
  cases hq : Query.parse path relation value with
  | error e =>
    rw [filterMany, hq] at hshown
    cases hshown
  | ok q =>
    cases hfound : q.select Device.toJson m.values with
    | error e =>
      rw [filterMany_error h hq hfound] at hshown
      cases hshown
    | ok found =>
      rw [filterMany_ok h hq hfound] at hshown
      exact ⟨q, found, rfl, hfound, (Except.ok.inj hshown).symm⟩

end FilterMany

/-! ## Resources -/

theorem getResource_eq (h : s.tables.Stands m) (id : String) :
    s.getResource id =
      ⟨DeviceMap.getResource m id,
        { s with metrics := s.metrics.recordLookup (s.tables.resources.contains id) }, []⟩ := by
  rw [← result_getResource h]
  rfl

theorem firstResource_eq (q : Query) (resources : List Resource) :
    firstResource q resources = q.first Resource.toJson resources := by
  induction resources with
  | nil => rfl
  | cons r rest ih =>
    rw [firstResource, Query.first]
    cases q.eval r.toJson with
    | error e => rfl
    | ok hit =>
      cases hit with
      | false => exact ih
      | true => rfl

theorem allResources_eq (q : Query) (resources : List Resource) :
    allResources q resources = q.select Resource.toJson resources := by
  induction resources with
  | nil => rfl
  | cons r rest ih =>
    rw [allResources, Query.select]
    cases q.eval r.toJson with
    | error e => rfl
    | ok hit => exact congrArg (Except.map _) ih

theorem filterResourceOne_eq (s : DeviceStore) {path relation value : String} {q : Query}
    (hq : Query.parse path relation value = .ok q) :
    s.filterResourceOne path relation value =
      ⟨q.search Resource.toJson s.resourcesInOrder (.matching .resource path relation value),
        { s with metrics := s.metrics.recordQuery }, []⟩ := by
  rw [filterResourceOne, hq]
  dsimp only
  rw [firstResource_eq, Query.search]
  cases q.first Resource.toJson s.resourcesInOrder with
  | error e => rfl
  | ok found => cases found <;> rfl

theorem filterResourceMany_eq (s : DeviceStore) {path relation value : String} {q : Query}
    (hq : Query.parse path relation value = .ok q) (page perPage : UInt64) :
    s.filterResourceMany path relation value page perPage =
      ⟨(q.select Resource.toJson s.resourcesInOrder).map fun found =>
          ⟨Paging.window found page perPage s.maxPerPage, found.length⟩,
        { s with metrics := s.metrics.recordQuery }, []⟩ := by
  rw [filterResourceMany, hq]
  dsimp only
  rw [allResources_eq]

/-- The stored owner of a resource is a stored device. -/
theorem stored_withStoredOwner (h : s.tables.Stands m) {r : Resource}
    {unit : String × Option Resource} (hu : s.withStoredOwner r = .ok unit) :
    ∃ row, s.tables.devices.get? unit.1 = some row := by
  rw [withStoredOwner] at hu
  split at hu
  · cases hu
  · rename_i stored hstored
    obtain rfl := Except.ok.inj hu
    obtain ⟨-, -, row, hrow, -⟩ := h.rows.resource hstored
    exact ⟨row, hrow⟩

theorem withStoredOwner_error {r : Resource} {e : Error} (he : s.withStoredOwner r = .error e) :
    e = .missing (.entry r.id) := by
  rw [withStoredOwner] at he
  split at he
  · exact (Except.error.inj he).symm
  · cases he

/-- Resources that are all stored can be grouped under their owners. -/
theorem devicesFromResources_eq (h : s.tables.Stands m) (resources : List Resource) :
    s.devicesFromResources resources =
      ⟨(resources.mapM s.withStoredOwner).map s.tables.grouped, s, []⟩ := by
  rw [devicesFromResources]
  cases hunits : resources.mapM s.withStoredOwner with
  | error e => rfl
  | ok units =>
    have hstored : ∀ u ∈ units, ∃ row, s.tables.devices.get? u.1 = some row := by
      intro u hu
      obtain ⟨r, -, hr⟩ := mem_of_mapM_ok hunits hu
      exact stored_withStoredOwner h hr
    dsimp only
    rw [DeviceTables.reconcile_eq hstored]
    rfl

end DeviceStore

end EdgeCatalog
