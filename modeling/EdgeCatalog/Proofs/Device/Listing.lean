import Mathlib
import EdgeCatalog.Proofs.Device.Refinement
import EdgeCatalog.Proofs.Device.Units
import EdgeCatalog.Proofs.Paging

/-! Walking the pages of a listing. The pages share out the units of the store, so that nothing is
lost or shown twice; a device may be cut at the end of a page, and what is shown of it on all pages
is the whole device, its resources sorted. -/
namespace EdgeCatalog.DeviceStore

open DeviceTables (Stands unitCount)

/-- The units can be counted in a word. It is so of every list that is held in memory, and the
total on a page is given as a word. -/
def Addressable (s : DeviceStore) : Prop :=
  s.tables.units.size < 2 ^ 64

instance (s : DeviceStore) : Decidable s.Addressable :=
  inferInstanceAs (Decidable (_ < _))

/-- The pages of a listing, from the first one to the last. -/
def listing (s : DeviceStore) (perPage : UInt64) : List (List Device) :=
  (Paging.pages s.tables.units.keys perPage s.maxPerPage).map s.tables.shown

/-- Pages of a size show the devices of a store: nothing is lost, nothing is shown twice, nothing
is changed, and nothing is added. -/
structure Shows (s : DeviceStore) (size : Nat) (pages : List (List Device)) : Prop where
  /-- Every stored resource is shown once. -/
  resources : (pages.flatten.flatMap (·.resources)).Perm (DeviceMap.resources s.contents)
  /-- The devices without resources, and no others, are shown without resources, each once. -/
  bare : (pages.flatten.filter (·.resources.isEmpty)).Perm
    (s.contents.values.filter (·.resources.isEmpty))
  /-- Every device is shown. -/
  complete : ∀ d ∈ s.contents.values, ∃ page ∈ pages, ∃ part ∈ page, part.id = d.id
  /-- What is shown is a stored device in all but its resources. -/
  faithful : ∀ page ∈ pages, ∀ part ∈ page, ∃ d,
    s.contents.get? part.id = some d ∧ part = { d with resources := part.resources }
  /-- No device is twice on a page. -/
  distinct : ∀ page ∈ pages, (page.map (·.id)).Nodup
  /-- No page holds too much, and all but the last are full. -/
  full : ∀ i (hi : i < pages.length), unitCount pages[i] ≤ size ∧
    (i + 1 < pages.length → unitCount pages[i] = size)
  /-- The parts of a device make up the device, its resources sorted. -/
  whole : ∀ id d, (s.get id).result = .ok d →
    let parts := pages.flatten.filter (·.id = id)
    (parts.flatMap (·.resources)).Perm d.resources ∧
      (parts.flatMap (·.resources)).Pairwise fun r r' => Text.bytes r.id < Text.bytes r'.id

variable {s : DeviceStore} {m : Table Device}

theorem result_page (s : DeviceStore) (devices : Except Error (List Device)) (total : Nat) :
    (s.page devices total).result = devices.map (⟨·, total⟩) := by
  rw [page]
  dsimp only
  rw [result_observe]

/-- Every page number gives a page of the listing, with the same total. -/
theorem result_getMany (h : s.tables.Stands m) (hword : s.Addressable) (page perPage : UInt64) :
    (s.getMany page perPage).result =
      .ok ⟨(s.listing perPage)[(Paging.pageNumber page).toNat - 1]?.getD [],
        unitCount m.values⟩ := by
  have hin := (Paging.window_sublist s.tables.units.keys page perPage s.maxPerPage).subset
  rw [getMany]
  dsimp only
  rw [result_page, h.devicesFromUnits_eq hin, h.length_units, Paging.window_eq hword, listing,
    List.getElem?_map]
  cases (Paging.pages s.tables.units.keys perPage s.maxPerPage)[
    (Paging.pageNumber page).toNat - 1]? <;> rfl

theorem length_listing (h : s.tables.Stands m) (perPage : UInt64) :
    (s.listing perPage).length =
      (Paging.pageCount (UInt64.ofNat (unitCount m.values)) perPage s.maxPerPage).toNat := by
  rw [listing, List.length_map, Paging.length_pages, h.length_units]

/-! ## What is on the pages -/

section Pages

variable {perPage : UInt64}

/-- The units of a page are some of all units. -/
theorem sublist_units (hword : s.Addressable) {keys : List String}
    (hkeys : keys ∈ Paging.pages s.tables.units.keys perPage s.maxPerPage) :
    keys.Sublist s.tables.units.keys := by
  have hsub := List.sublist_flatten_of_mem hkeys
  rwa [Paging.flatten_pages hword] at hsub

theorem nodup_units (h : s.tables.Stands m) : s.tables.units.keys.Nodup :=
  h.pairwise_units.imp fun hlt => ne_of_lt hlt

/-- What every page shows of its units, all pages show of all units. -/
theorem flatMap_listing {α : Type} (hword : s.Addressable) (perPage : UInt64) {f : List Device → List α}
    {g : List String → List α}
    (hpage : ∀ keys, keys.Sublist s.tables.units.keys → (f (s.tables.shown keys)).Perm (g keys))
    (hg : ∀ parts : List (List String), g parts.flatten = parts.flatMap g) :
    ((s.listing perPage).flatMap f).Perm (g s.tables.units.keys) := by
  have hall := Paging.flatten_pages hword perPage s.maxPerPage
  rw [← hall, hg, listing, List.flatMap_map]
  exact List.Perm.flatMap_left _ fun keys hkeys => hpage keys (sublist_units hword hkeys)

theorem resources_listing (h : s.tables.Stands m) (hword : s.Addressable) :
    ((s.listing perPage).flatten.flatMap (·.resources)).Perm (DeviceMap.resources m) := by
  have hpages := flatMap_listing hword perPage
    (fun keys _ => s.tables.resources_shown keys) fun parts => List.filterMap_flatten
  rw [← List.flatMap_id, List.flatMap_assoc]
  exact hpages.trans h.resources_units

theorem bare_listing (h : s.tables.Stands m) (hword : s.Addressable) :
    ((s.listing perPage).flatten.filter (·.resources.isEmpty)).Perm
      (m.values.filter (·.resources.isEmpty)) := by
  have hpages := flatMap_listing hword perPage
    (fun keys hkeys => h.bare_shown hkeys.subset (hkeys.nodup (nodup_units h))) fun parts => by
      rw [DeviceTables.bareAmong, List.filter_flatten, List.map_flatten, List.map_map]
      rfl
  rw [List.filter_flatten]
  exact hpages.trans h.bareAmong_units

/-- The parts of a device carry its resources in the order of the units. -/
theorem parts_listing (h : s.tables.Stands m) (hword : s.Addressable) (id : String) :
    ((s.listing perPage).flatten.filter (·.id = id)).flatMap (·.resources) =
      s.tables.resourcesAmong s.tables.units.keys id := by
  have hall := Paging.flatten_pages hword perPage s.maxPerPage
  rw [← hall, DeviceTables.resourcesAmong_flatten, List.filter_flatten, ← List.flatMap_def,
    List.flatMap_assoc, listing, List.flatMap_map]
  refine List.flatMap_congr fun keys hkeys => ?_
  exact h.filter_shown (sublist_units hword hkeys).subset id

theorem complete_listing (h : s.tables.Stands m) (hword : s.Addressable) (perPage : UInt64)
    {d : Device} (hd : d ∈ m.values) : ∃ page ∈ s.listing perPage, ∃ part ∈ page, part.id = d.id := by
  obtain ⟨row, hrow, -⟩ := h.mem_values.mp hd
  obtain ⟨key, hkey, howner⟩ := h.exists_unit hrow
  have hall := Paging.flatten_pages hword perPage s.maxPerPage
  rw [← hall] at hkey
  obtain ⟨keys, hkeys, hin⟩ := List.mem_flatten.mp hkey
  refine ⟨s.tables.shown keys, List.mem_map_of_mem hkeys, ?_⟩
  refine List.mem_map.mp ?_
  rw [h.map_id_shown (sublist_units hword hkeys).subset, List.mem_eraseDups]
  exact List.mem_map.mpr ⟨key, hin, howner⟩

theorem faithful_listing (h : s.tables.Stands m) (hword : s.Addressable) {page : List Device}
    (hpage : page ∈ s.listing perPage) {part : Device} (hpart : part ∈ page) :
    ∃ d, m.get? part.id = some d ∧ part = { d with resources := part.resources } := by
  obtain ⟨keys, hkeys, rfl⟩ := List.mem_map.mp hpage
  obtain ⟨d, hd, heq⟩ := h.stored_of_mem_shown (sublist_units hword hkeys).subset hpart
  exact ⟨d, hd, by rw [heq]⟩

theorem distinct_listing (h : s.tables.Stands m) (hword : s.Addressable) {page : List Device}
    (hpage : page ∈ s.listing perPage) : (page.map (·.id)).Nodup := by
  obtain ⟨keys, hkeys, rfl⟩ := List.mem_map.mp hpage
  exact h.nodup_shown (sublist_units hword hkeys).subset

theorem full_listing (h : s.tables.Stands m) (hword : s.Addressable) {i : Nat}
    (hi : i < (s.listing perPage).length) :
    unitCount (s.listing perPage)[i] ≤ (Paging.pageSize perPage s.maxPerPage).toNat ∧
      (i + 1 < (s.listing perPage).length →
        unitCount (s.listing perPage)[i] = (Paging.pageSize perPage s.maxPerPage).toNat) := by
  simp only [listing, List.length_map, List.getElem_map] at hi ⊢
  have hsub := sublist_units hword (List.getElem_mem hi)
  rw [h.unitCount_shown hsub.subset (hsub.nodup (nodup_units h))]
  exact Paging.length_page hword hi

end Pages

theorem shows_listing (h : s.tables.Stands s.contents) (hword : s.Addressable) (perPage : UInt64) :
    s.Shows (Paging.pageSize perPage s.maxPerPage).toNat (s.listing perPage) where
  resources := resources_listing h hword
  bare := bare_listing h hword
  complete _ hd := complete_listing h hword perPage hd
  faithful _ hpage _ hpart := faithful_listing h hword hpage hpart
  distinct _ hpage := distinct_listing h hword hpage
  full _ hi := full_listing h hword hi
  whole id d hget := by
    have hd : s.contents.get? id = some d := by
      rw [result_get h, DeviceMap.get] at hget
      split at hget
      · cases hget
      · rename_i hsome
        rw [hsome, Except.ok.inj hget]
    dsimp only
    rw [parts_listing h hword]
    refine ⟨h.resourcesAmong_units hd, ?_⟩
    exact (h.pairwise_resourcesAmong h.pairwise_units id).imp Text.bytes_lt_bytes_iff.mpr

/-- Every page number gives a page of one list of pages, as many as the pages are counted to be, and
these pages show the devices of the store. Page numbers past the last page give nothing, and every
page has the number of all units for its total. -/
theorem Reachable.getMany_shows (h : s.Reachable) (hword : s.Addressable) (perPage : UInt64) :
    let total := unitCount s.contents.values
    ∃ pages : List (List Device),
      pages.length = (Paging.pageCount (UInt64.ofNat total) perPage s.maxPerPage).toNat ∧
      s.Shows (Paging.pageSize perPage s.maxPerPage).toNat pages ∧
      ∀ page, (s.getMany page perPage).result =
        .ok ⟨pages[(Paging.pageNumber page).toNat - 1]?.getD [], total⟩ :=
  ⟨s.listing perPage, length_listing h.stands perPage, shows_listing h.stands hword perPage,
    fun page => result_getMany h.stands hword page perPage⟩

/-- Three units on two pages: the first page shows the resources of one device, the second a bare
one. -/
theorem getMany_shows_three :
    let s := run { maxPerPage := 2 } [
      .record (.add .epoch {
        id := "a/b", ttl := -1, resources := [{ id := "a/b/y" }, { id := "a/b/x" }] }),
      .record (.add .epoch { id := "a/c", ttl := -1 })]
    s.Reachable ∧ s.Addressable ∧ ∃ pages, pages.length = 2 ∧ s.Shows 2 pages := by
  intro s
  have hs : s.Reachable := ⟨2, _, rfl⟩
  have hword : s.Addressable := by decide +kernel
  obtain ⟨pages, hlength, hshows, -⟩ := hs.getMany_shows hword 0
  have hcount : (Paging.pageCount (UInt64.ofNat (unitCount s.contents.values)) 0
      s.maxPerPage).toNat = 2 := by decide +kernel
  have hsize : (Paging.pageSize 0 s.maxPerPage).toNat = 2 := by decide +kernel
  rw [hcount] at hlength
  rw [hsize] at hshows
  exact ⟨hs, hword, pages, hlength, hshows⟩

end EdgeCatalog.DeviceStore
