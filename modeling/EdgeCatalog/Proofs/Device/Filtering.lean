import Mathlib
import EdgeCatalog.Proofs.Device.FilterOrder
import EdgeCatalog.Proofs.Query.Outcome
import EdgeCatalog.Proofs.Query.Scan

/-! Selecting devices page by page, and searching for one. A query is put to whole devices, but the
pages are cut by units, so a device that matches may be cut at the end of a page. Put together again
row by row, the pages are the devices that match, with all of their resources and those of no other
device. -/
namespace EdgeCatalog

/-! ## The rows of a device -/

namespace Device

/-- A device but for its resources, and one of its resources unless it has none. -/
abbrev Row := Device × Option Resource

/-- A device without its resources. -/
def bare (d : Device) : Device :=
  { d with resources := [] }

/-- The rows of a device, or of the part of it on a page, in the order in which it carries its
resources. -/
def rows (d : Device) : List Row :=
  if d.resources.isEmpty then [(d.bare, none)] else d.resources.map fun r => (d.bare, some r)

/-- A device with its resources in the order of their ids. -/
def sorted (d : Device) : Device :=
  { d with resources := d.resources.insertionSort fun r r' => r.id ≤ r'.id }

theorem perm_sorted (d : Device) : d.sorted.resources.Perm d.resources :=
  List.perm_insertionSort _ _

theorem map_id_sorted (d : Device) :
    d.sorted.resources.map (·.id) = sortKeys (d.resources.map (·.id)) := by
  have htotal : Std.Total fun r r' : Resource => r.id ≤ r'.id := ⟨fun _ _ => le_total _ _⟩
  have htrans : IsTrans Resource fun r r' => r.id ≤ r'.id := ⟨fun _ _ _ => le_trans⟩
  exact eq_sortKeys (List.pairwise_map.mpr (List.pairwise_insertionSort _ _))
    (d.perm_sorted.map _)

end Device

namespace DeviceTables

variable {t : DeviceTables} {m : Table Device} {keys : List String} {d : Device}
  {devices : List Device}

/-- The row that a unit is shown as. -/
def shownRow (t : DeviceTables) (unit : ShownUnit) : Device.Row :=
  (t.fragment unit.1 [], unit.2.bind t.resources.get?)

/-- What is shown of a stored device: it is changed in nothing but its resources, and these are
stored ones. -/
structure Carries (t : DeviceTables) (d : Device) : Prop where
  fragment_eq : t.fragment d.id [] = d.bare
  stored : ∀ r ∈ d.resources, t.resources.get? r.id = some r

theorem Carries.rows_eq (h : t.Carries d) : d.rows = d.shownUnits.map t.shownRow := by
  rw [Device.rows, Device.shownUnits]
  split
  · rw [List.map_singleton, shownRow, h.fragment_eq]
    rfl
  · rw [List.map_map]
    refine List.map_congr_left fun r hr => ?_
    show _ = (t.fragment d.id [], t.resources.get? r.id)
    rw [h.fragment_eq, h.stored r hr]

theorem Carries.sorted (h : t.Carries d) : t.Carries d.sorted where
  fragment_eq := h.fragment_eq
  stored r hr := h.stored r (d.perm_sorted.subset hr)

/-- A stored device is shown as it is. -/
theorem Stands.carries_of_mem (h : t.Stands m) (hd : d ∈ m.values) : t.Carries d := by
  obtain ⟨row, hrow, rfl⟩ := h.mem_values.mp hd
  constructor
  · rw [fragment, hrow]
    rfl
  · exact fun r hr => (h.rows.mem_resources_whole.mp hr).2

theorem Stands.carries_of_mem_shown (h : t.Stands m) (hk : keys ⊆ t.units.keys)
    (hd : d ∈ t.shown keys) : t.Carries d := by
  obtain ⟨id, row, -, hrow, rfl⟩ := (h.mem_shown hk).mp hd
  constructor
  · show t.fragment row.device.id [] = _
    rw [(h.rows.device hrow).id_eq, fragment, hrow]
    rfl
  · intro r hr
    obtain ⟨key, -, -, hr⟩ := mem_resourcesAmong.mp hr
    obtain rfl := (h.rows.resource hr).id_eq
    exact hr

/-- A device with sorted resources is shown as its units are. -/
theorem Stands.shownUnits_sorted (h : t.Stands m) (hd : d ∈ m.values) :
    d.sorted.shownUnits = (unitsOf d).map t.shownUnit := by
  have hempty : d.sorted.resources.isEmpty = d.resources.isEmpty := d.perm_sorted.isEmpty_eq
  rw [Device.shownUnits, hempty]
  by_cases hnone : d.resources.isEmpty = true
  · have hbare : d.id ∈ t.bareIds := (h.mem_bareIds_iff hd).mpr (List.isEmpty_iff.mp hnone)
    rw [if_pos hnone, unitsOf, if_pos hnone, List.map_singleton,
      shownUnit_of_none (h.rows.get?_resources_of_bare hbare)]
    rfl
  · have hunits : unitsOf d = d.sorted.resources.map (·.id) := by
      rw [unitsOf, if_neg hnone, d.map_id_sorted]
    rw [if_neg hnone, hunits, List.map_map]
    refine List.map_congr_left fun r hr => ?_
    have hunit : r.id ∈ unitsOf d := hunits ▸ List.mem_map_of_mem hr
    show (d.id, some r.id) = t.shownUnit r.id
    rw [h.rows.shownUnit_of_some ((h.carries_of_mem hd).sorted.stored r hr),
      h.ownerOf_of_mem hd hunit]

/-- The rows of whole devices are those of their units. -/
theorem Stands.rows_sorted (h : t.Stands m) (hd : devices ⊆ m.values) :
    (devices.flatMap fun d => d.sorted.rows) =
      ((devices.flatMap unitsOf).map t.shownUnit).map t.shownRow := by
  rw [List.map_flatMap, List.map_flatMap]
  refine List.flatMap_congr fun d hin => ?_
  rw [← h.shownUnits_sorted (hd hin), (h.carries_of_mem (hd hin)).sorted.rows_eq]

end DeviceTables

namespace DeviceStore

open DeviceTables (Stands unitsOf unitCount)

/-- Pages that show devices. -/
structure ShowsDevices (pageAt : UInt64 → Except Error (Page Device)) (devices : List Device)
    (perPage maxPerPage : UInt64) : Prop where
  /-- Row by row, the pages are the devices one after the other, their resources sorted. -/
  walk : ∃ parts, Paging.walk pageAt perPage maxPerPage = .ok parts ∧
    parts.flatMap Device.rows = devices.flatMap fun d => d.sorted.rows
  /-- A device counts as many units as it has resources, and a bare device one. -/
  shares : Paging.Shares pageAt unitCount (unitCount devices) perPage maxPerPage
  /-- On a page, devices are in the order of their ids, and no device is cut. -/
  ascending : ∀ page shown, pageAt page = .ok shown →
    shown.items.Pairwise fun a b => Text.bytes a.id < Text.bytes b.id

/-- What is selected of the devices `stored`, and what is found among them. -/
structure FiltersExactly (s : DeviceStore) (q : Query) (path relation value : String)
    (stored : List Device) : Prop where
  /-- No page is selected if the query cannot be put to every device. -/
  stops : ∀ page perPage,
    q.Stops Device.toJson stored (s.filterMany path relation value page perPage).result
  shows : (∀ d ∈ stored, ∃ hit, q.eval d.toJson = .ok hit) → ∀ perPage,
    ShowsDevices (fun page => (s.filterMany path relation value page perPage).result)
      (stored.filter fun d => q.hits d.toJson) perPage s.maxPerPage
  finds : ∀ result, (s.filterOne path relation value).result = result ↔
    q.Finds Device.toJson stored (.matching .device path relation value) result

variable {s : DeviceStore} {m : Table Device} {q : Query} {path relation value : String}
  {devices : List Device}

theorem lists_values (h : s.tables.Stands m) :
    Lists (fun id => (s.get id).result) Device.id m.values :=
  Table.lists (result_get_eq_ok_iff h) h.id_eq

theorem showsDevices (h : s.tables.Stands m) (hword : s.Addressable)
    (hq : Query.parse path relation value = .ok q)
    (hfound : q.select Device.toJson m.values = .ok devices) (perPage : UInt64) :
    ShowsDevices (fun page => (s.filterMany path relation value page perPage).result) devices
      perPage s.maxPerPage := by
  have hpages := fun page => result_filterMany h hq hfound page perPage
  have hd := Query.sublist_of_select hfound
  have hunits := h.units_subset hd.subset
  have hnodup := nodup_flatMap_unitsOf h hd
  have hlen := hword.length_flatMap_unitsOf h hd
  have hgrouped := grouped_flatMap_unitsOf h hd.subset (h.pairwise_ids.sublist hd)
  have hsub {part : List String} (hpart : part.Sublist (devices.flatMap unitsOf)) :
      part ⊆ s.tables.units.keys := fun _ hkey => hunits (hpart.subset hkey)
  refine ⟨⟨_, walk_filterMany h hq hfound perPage, ?_⟩, ?_, fun page shown hshown => ?_⟩
  -- what is shown of a device on a page has the rows of its units there
  · have hrows : ∀ part ∈ (Paging.pages (devices.flatMap unitsOf) perPage s.maxPerPage).flatMap
        s.tables.shown, part.rows = part.shownUnits.map s.tables.shownRow := by
      intro part hpart
      obtain ⟨keys, hkeys, hpart⟩ := List.mem_flatMap.mp hpart
      have hkeys := List.sublist_flatten_of_mem hkeys
      rw [Paging.flatten_pages hlen] at hkeys
      exact (h.carries_of_mem_shown (hsub hkeys) hpart).rows_eq
    have hall := h.shownUnits_pages hunits hnodup (fun a b => a < b) (fun _ _ => lt_asymm)
      hgrouped hlen perPage s.maxPerPage
    rw [List.flatMap_congr hrows, ← List.map_flatMap, h.rows_sorted hd.subset, hall]
  · rw [← DeviceTables.length_flatMap_unitsOf]
    exact Paging.shares_windows hpages hlen
      (fun part hpart => h.unitCount_shown (hsub hpart) (hpart.nodup hnodup)) rfl
  · obtain rfl := Except.ok.inj ((hpages page).symm.trans hshown)
    have hpart := Paging.window_sublist (devices.flatMap unitsOf) page perPage s.maxPerPage
    have hascending := pairwise_eraseDups (List.pairwise_map.mpr
      ((hgrouped.sublist hpart).imp fun hab => hab.imp_right And.left))
    rw [← h.map_id_shown (hsub hpart)] at hascending
    exact (List.pairwise_map.mp hascending).imp Text.bytes_lt_bytes_iff.mpr

/-- A query with an unknown relation leaves no trace. -/
theorem filter_unknown (hname : relation ∉ Relation.names) :
    (∀ page perPage, s.filterMany path relation value page perPage =
      ⟨.error (.invalid (.unknownRelation relation)), s, []⟩) ∧
    s.filterOne path relation value = ⟨.error (.invalid (.unknownRelation relation)), s, []⟩ := by
  have hparse : Query.parse path relation value = .error (.invalid (.unknownRelation relation)) :=
    Query.parse_eq_error_iff.mpr ⟨hname, rfl⟩
  constructor
  · intro page perPage
    rw [filterMany, hparse]
  · rw [filterOne, hparse]

theorem filtersExactly (h : s.tables.Stands m) (hword : s.Addressable)
    (hq : Query.parse path relation value = .ok q) :
    s.FiltersExactly q path relation value m.values where
  stops page perPage := by
    rw [filterMany_eq h hq]
    exact (Query.stops_select q Device.toJson m.values).map _
  shows heval perPage := showsDevices h hword hq (Query.select_of_forall heval) perPage
  finds result := by
    rw [filterOne_eq h hq]
    exact Query.search_eq_iff

/-- The resources of a device as it is stored have distinct ids. -/
theorem pairwise_sorted (h : s.tables.Stands m) {d : Device} (hd : d ∈ m.values) :
    d.sorted.resources.Pairwise fun r r' => Text.bytes r.id < Text.bytes r'.id := by
  have hsorted := pairwise_lt_sortKeys (h.nodup_resourceIds hd)
  rw [← Device.map_id_sorted] at hsorted
  exact (List.pairwise_map.mp hsorted).imp Text.bytes_lt_bytes_iff.mpr

/-- Selections and searches go through whole devices, in the order of their ids. -/
theorem Reachable.filters_exact (h : s.Reachable) (hword : s.Addressable) :
    (∀ path relation value, relation ∉ Relation.names →
      (∀ page perPage, s.filterMany path relation value page perPage =
        ⟨.error (.invalid (.unknownRelation relation)), s, []⟩) ∧
      s.filterOne path relation value =
        ⟨.error (.invalid (.unknownRelation relation)), s, []⟩) ∧
    ∃ stored, Lists (fun id => (s.get id).result) Device.id stored ∧
      (∀ d ∈ stored,
        d.sorted.resources.Pairwise fun r r' => Text.bytes r.id < Text.bytes r'.id) ∧
      ∀ path relation value, relation ∈ Relation.names →
        ∃ q, Query.parse path relation value = .ok q ∧
          s.FiltersExactly q path relation value stored := by
  refine ⟨fun path relation value => filter_unknown, s.contents.values, lists_values h.stands,
    fun d hd => pairwise_sorted h.stands hd, fun path relation value hname => ?_⟩
  obtain ⟨q, hq⟩ := Query.parse_of_mem_names hname path value
  exact ⟨q, hq, filtersExactly h.stands hword hq⟩

/-- Two lamps on two pages: the first page ends within the resources of the one, and the second page
goes on with them and shows the other, which is bare. By the room no page can be selected, as that
of the last device is no text; the lamp in the hall is found all the same. -/
theorem filters_exact_lamps :
    let s := run { maxPerPage := 2 } [
      .record (.add .epoch {
        id := "a/b", type := "lamp", ttl := -1, metadata := .ofFields [("room", .string "hall")]
        resources := [{ id := "a/b/z" }, { id := "a/b/x" }, { id := "a/b/y" }] }),
      .record (.add .epoch { id := "a/b-c", type := "lamp", ttl := -1 }),
      .record (.add .epoch {
        id := "a/c", type := "door", ttl := -1, metadata := .ofFields [("room", .bool true)]
        resources := [{ id := "a/c/x" }] })]
    s.Reachable ∧ s.Addressable ∧ ∃ stored,
      s.FiltersExactly ⟨["type"], .equals, "lamp"⟩ "type" "equals" "lamp" stored ∧
      (∃ parts, Paging.walk (fun page => (s.filterMany "type" "equals" "lamp" page 0).result) 0
          s.maxPerPage = .ok parts ∧
        (parts.map fun part => (part.id, part.resources.map (·.id))) =
          [("a/b", ["a/b/x", "a/b/y"]), ("a/b", ["a/b/z"]), ("a/b-c", [])] ∧
        parts.flatMap Device.rows = (stored.filter fun d =>
          (⟨["type"], .equals, "lamp"⟩ : Query).hits d.toJson).flatMap fun d => d.sorted.rows) ∧
      s.FiltersExactly ⟨["meta", "room"], .equals, "hall"⟩ "meta.room" "equals" "hall" stored ∧
      (s.filterMany "meta.room" "equals" "hall" 1 0).result.isOk = false ∧
      (s.filterOne "meta.room" "equals" "hall").result.isOk = true := by
  intro s
  have hs : s.Reachable := ⟨2, _, rfl⟩
  have hword : s.Addressable := by decide +kernel
  obtain ⟨-, stored, -, -, hfilters⟩ := hs.filters_exact hword
  obtain ⟨q, hq, htype⟩ := hfilters "type" "equals" "lamp" (by decide)
  have hparse : Query.parse "type" "equals" "lamp" = .ok ⟨["type"], .equals, "lamp"⟩ := by
    decide +kernel
  obtain rfl := Except.ok.inj (hparse.symm.trans hq)
  obtain ⟨q, hq, hroom⟩ := hfilters "meta.room" "equals" "hall" (by decide)
  have hparse : Query.parse "meta.room" "equals" "hall" =
      .ok ⟨["meta", "room"], .equals, "hall"⟩ := by decide +kernel
  obtain rfl := Except.ok.inj (hparse.symm.trans hq)
  have hone : (s.filterMany "type" "equals" "lamp" 1 0).result.isOk = true := by decide +kernel
  obtain ⟨parts, hwalk, hrows⟩ := (htype.shows ((htype.stops 1 0).forall_eval hone) 0).walk
  have hparts : (Paging.walk (fun page => (s.filterMany "type" "equals" "lamp" page 0).result) 0
      s.maxPerPage).toOption.map (·.map fun part => (part.id, part.resources.map (·.id))) =
        some [("a/b", ["a/b/x", "a/b/y"]), ("a/b", ["a/b/z"]), ("a/b-c", [])] := by decide +kernel
  rw [hwalk] at hparts
  exact ⟨hs, hword, stored, htype, ⟨parts, hwalk, Option.some.inj hparts, hrows⟩, hroom,
    by decide +kernel, by decide +kernel⟩

end DeviceStore

end EdgeCatalog
