import Mathlib
import EdgeCatalog.Proofs.Device.Listing
import EdgeCatalog.Proofs.Device.Reading
import EdgeCatalog.Proofs.Query.Selection

/-! Selecting resources page by page, and searching for one. Resources are filtered as one list, in
the order of their ids, whatever device they belong to. The list is read off the paging units, which
hold the ids of bare devices as well; those are no resources and fall out. -/
namespace EdgeCatalog.DeviceStore

open DeviceTables (Stands)

variable {s : DeviceStore} {m : Table Device} {stored : List Resource}

/-! ## The stored resources -/

/-- The resources among the units are the resource rows, in the order of their ids. -/
theorem resourcesInOrder_eq (h : s.tables.Stands m) :
    s.resourcesInOrder = s.tables.resources.values := by
  have hperm : s.resourcesInOrder.Perm s.tables.resources.values :=
    h.resources_units.trans h.resources_perm
  have hunits : s.resourcesInOrder.Pairwise fun r r' => r.id < r'.id := by
    rw [resourcesInOrder, List.pairwise_filterMap]
    refine h.pairwise_units.imp fun hlt r hr r' hr' => ?_
    rwa [(h.rows.resource hr).id_eq, (h.rows.resource hr').id_eq]
  have hrows : s.tables.resources.values.Pairwise fun r r' => r.id < r'.id := by
    rw [← List.pairwise_map, s.tables.resources.map_values_eq_keys fun hr =>
      (h.rows.resource hr).id_eq]
    exact s.tables.resources.pairwise_keys
  exact hperm.eq_of_pairwise (fun _ _ _ _ hlt hgt => absurd hgt (lt_asymm hlt)) hunits hrows

/-- The resources of all devices. -/
structure HoldsResources (s : DeviceStore) (stored : List Resource) : Prop where
  lists : Lists (fun id => (s.getResource id).result) Resource.id stored
  /-- A device carries those of them that name it. -/
  carried : ∀ id d, (s.get id).result = .ok d → ∀ r, r ∈ d.resources ↔ r ∈ stored ∧ r.device = id
  /-- Each of them names a device. -/
  owner : ∀ r ∈ stored, ∃ d, (s.get r.device).result = .ok d
  length_eq : stored.length = s.resourceCount

theorem result_getResource_eq_ok_iff {id : String} {r : Resource} :
    (s.getResource id).result = .ok r ↔ s.tables.resources.get? id = some r := by
  rw [getResource]
  dsimp only
  cases s.tables.resources.get? id <;> simp

theorem mem_values_resources_iff (h : s.tables.Stands m) {r : Resource} :
    r ∈ s.tables.resources.values ↔ s.tables.resources.get? r.id = some r := by
  rw [← h.mem_resources]
  exact h.resources_perm.mem_iff.symm

theorem holdsResources (h : s.tables.Stands m) : s.HoldsResources s.tables.resources.values where
  lists := Table.lists result_getResource_eq_ok_iff fun hr => (h.rows.resource hr).id_eq
  carried id d hd r := by
    rw [result_get_eq_ok_iff h, ← h.get?] at hd
    obtain ⟨row, hrow, rfl⟩ := Option.map_eq_some_iff.mp hd
    rw [h.rows.mem_resources_whole, mem_values_resources_iff h]
    constructor
    · rintro ⟨hlisted, hr⟩
      obtain ⟨r', hr', howner⟩ := (h.rows.device hrow).owned r.id hlisted
      obtain rfl := Option.some.inj (hr.symm.trans hr')
      exact ⟨hr, howner⟩
    · rintro ⟨hr, rfl⟩
      obtain ⟨row', hrow', hlisted⟩ := (h.rows.resource hr).listed
      obtain rfl := Option.some.inj (hrow.symm.trans hrow')
      exact ⟨hlisted, hr⟩
  owner r hin := by
    obtain ⟨row, hrow, -⟩ := (h.rows.resource ((mem_values_resources_iff h).mp hin)).listed
    exact ⟨s.tables.whole row, result_get_of_row h hrow⟩
  length_eq := Table.length_values _

/-- A resource is a unit, so there are no more resources than units. -/
theorem Addressable.length_resources (hword : s.Addressable) (h : s.tables.Stands m) :
    s.tables.resources.values.length < 2 ^ 64 := by
  rw [← resourcesInOrder_eq h]
  exact (List.length_filterMap_le _ _).trans_lt hword

/-! ## Filters -/

/-- Selections and searches go through the resources of all devices. -/
theorem Reachable.resource_filters_exact (h : s.Reachable) (hword : s.Addressable) :
    ∃ stored, s.HoldsResources stored ∧
      ∀ path relation value q, Query.parse path relation value = .ok q →
        (∀ perPage, q.Selects Resource.toJson stored
          (fun page => (s.filterResourceMany path relation value page perPage).result) perPage
          s.maxPerPage) ∧
        ∀ result, (s.filterResourceOne path relation value).result = result ↔
          q.Finds Resource.toJson stored (.matching .resource path relation value) result := by
  have hall := resourcesInOrder_eq h.stands
  refine ⟨_, holdsResources h.stands, fun path relation value q hq => ⟨fun perPage => ?_, ?_⟩⟩
  · refine Query.selects_windows (fun page => ?_) (hword.length_resources h.stands)
    rw [filterResourceMany_eq s hq, hall]
  · intro result
    rw [filterResourceOne_eq s hq, hall]
    exact Query.search_eq_iff

/-- The resources of `a/b` on two pages. The device `a/b-a` has none, and the resource of `a/b-c`,
which comes first of all, does not match. -/
theorem resource_filters_exact_owner :
    let s := run { maxPerPage := 1 } [
      .record (.add .epoch {
        id := "a/b", ttl := -1, resources := [{ id := "a/b/y" }, { id := "a/b/x" }] }),
      .record (.add .epoch { id := "a/b-a", ttl := -1 }),
      .record (.add .epoch { id := "a/b-c", ttl := -1, resources := [{ id := "a/b-c/z" }] })]
    s.Reachable ∧ s.Addressable ∧ ∃ stored, s.HoldsResources stored ∧ stored.length = 3 ∧
      ∃ shown, Paging.walk
          (fun page => (s.filterResourceMany "device" "equals" "a/b" page 0).result) 0
          s.maxPerPage = .ok shown ∧
        shown.map (·.id) = ["a/b/x", "a/b/y"] ∧
        ∀ r ∈ shown, (s.getResource r.id).result = .ok r := by
  intro s
  have hs : s.Reachable := ⟨1, _, rfl⟩
  have hword : s.Addressable := by decide +kernel
  have hq : Query.parse "device" "equals" "a/b" = .ok ⟨["device"], .equals, "a/b"⟩ := by
    decide +kernel
  obtain ⟨stored, hstored, hfilters⟩ := hs.resource_filters_exact hword
  obtain ⟨hmany, -⟩ := hfilters _ _ _ _ hq
  have hone : (s.filterResourceMany "device" "equals" "a/b" 1 0).result.isOk = true := by
    decide +kernel
  have hwalk := (hmany 0).walk (((hmany 0).stops 1).forall_eval hone)
  have hids : (Paging.walk
      (fun page => (s.filterResourceMany "device" "equals" "a/b" page 0).result) 0
      s.maxPerPage).toOption.map (·.map (·.id)) = some ["a/b/x", "a/b/y"] := by decide +kernel
  rw [hwalk] at hids
  refine ⟨hs, hword, stored, hstored, hstored.length_eq.trans (by decide +kernel), _, hwalk,
    Option.some.inj hids, fun r hr => ?_⟩
  exact (hstored.lists.mem_iff r).mp (List.mem_of_mem_filter hr)

end EdgeCatalog.DeviceStore
