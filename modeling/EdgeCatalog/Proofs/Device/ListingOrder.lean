import Mathlib
import EdgeCatalog.Proofs.Device.Listing
import EdgeCatalog.Proofs.Id.Blocks

/-! The order of a listing. A listing walks the units, not the ids of the devices, and shows the
devices in the order of their blocks. That is the order of their ids as long as no device with
resources is overtaken: `a/b-c` comes before `a/b/x`, and so before the device `a/b`, though `a/b`
is the smaller id. -/
namespace EdgeCatalog

namespace DeviceTables

variable {t : DeviceTables} {m : Table Device}

/-- How the units of a device begin. -/
def blockOf (t : DeviceTables) (id : String) : List Char :=
  Id.block id (decide (id ∈ t.bareIds))

theorem Stands.isUnit (h : t.Stands m) {key : String} (hk : key ∈ t.units.keys) :
    Id.IsUnit (t.ownerOf key) (decide (t.ownerOf key ∈ t.bareIds)) key := by
  cases hr : t.resources.get? key with
  | none =>
    rw [ownerOf_of_none hr, decide_eq_true (mem_bareIds.mpr (h.bare_of_mem hk hr))]
    rfl
  | some r =>
    obtain ⟨-, hname, row, hrow, hlisted⟩ := h.rows.resource hr
    have hnot : r.device ∉ t.bareIds := by
      intro hbare
      obtain ⟨row', hrow', hempty⟩ := mem_bareIds.mp hbare
      obtain rfl := Option.some.inj (hrow.symm.trans hrow')
      rw [hempty] at hlisted
      exact List.not_mem_nil hlisted
    rw [ownerOf_of_some hr, decide_eq_false hnot]
    exact hname

theorem Stands.isRecord_ownerOf (h : t.Stands m) {key : String} (hk : key ∈ t.units.keys) :
    Id.IsRecord (t.ownerOf key) := by
  obtain ⟨row, hrow⟩ := h.stored_ownerOf hk
  exact (h.rows.device hrow).isRecord

/-- The owners of the units come in the order of their blocks. -/
theorem Stands.pairwise_owners (h : t.Stands m) :
    (t.units.keys.map t.ownerOf).Pairwise fun a b => a = b ∨ t.blockOf a < t.blockOf b := by
  rw [List.pairwise_map]
  refine h.pairwise_units.imp_of_mem fun {key key'} hk hk' hlt => ?_
  by_cases hsame : t.ownerOf key = t.ownerOf key'
  · exact .inl hsame
  · refine .inr ?_
    exact (Id.unit_lt_iff (h.isRecord_ownerOf hk) (h.isRecord_ownerOf hk') hsame (h.isUnit hk)
      (h.isUnit hk')).mp hlt

end DeviceTables

namespace DeviceStore

open DeviceTables (Stands unitCount)

variable {s : DeviceStore} {m : Table Device} {perPage : UInt64}

/-- The ids on the pages are owners of the units, in the order of the units. -/
theorem ids_listing_sublist (h : s.tables.Stands m) (hword : s.Addressable) :
    ((s.listing perPage).flatten.map (·.id)).Sublist
      (s.tables.units.keys.map s.tables.ownerOf) := by
  have hall := Paging.flatten_pages hword perPage s.maxPerPage
  have hsub : ∀ keys ∈ Paging.pages s.tables.units.keys perPage s.maxPerPage,
      ((s.tables.shown keys).map (·.id)).Sublist (keys.map s.tables.ownerOf) := by
    intro keys hkeys
    rw [h.map_id_shown (sublist_units hword hkeys).subset]
    exact eraseDups_sublist _
  rw [← hall, List.map_flatten, List.map_flatten, listing, List.map_map, ← List.flatMap_def,
    ← List.flatMap_def]
  exact List.Sublist.flatMap_right _ hsub

theorem pairwise_ids_listing (h : s.tables.Stands m) (hword : s.Addressable) (perPage : UInt64) :
    ((s.listing perPage).flatten.map (·.id)).Pairwise fun a b =>
      a = b ∨ s.tables.blockOf a < s.tables.blockOf b :=
  h.pairwise_owners.sublist (ids_listing_sublist h hword)

/-- Pages whose devices come in the order of their ids: strictly on each page, and with repetitions
from page to page. -/
def AscendingPages (pages : List (List Device)) : Prop :=
  (∀ page ∈ pages, (page.map (·.id)).Pairwise (· < ·)) ∧
    (pages.flatten.map (·.id)).Pairwise (· ≤ ·)

/-- All devices are shown, so the order of the pages is that of all blocks. -/
theorem ascendingPages_iff (h : s.tables.Stands m) (hword : s.Addressable) (perPage : UInt64) :
    AscendingPages (s.listing perPage) ↔
      ∀ a ∈ m.values, ∀ b ∈ m.values, a.id < b.id →
        s.tables.blockOf a.id < s.tables.blockOf b.id := by
  have hblocks := pairwise_ids_listing h hword perPage
  constructor
  · rintro ⟨-, hids⟩ a ha b hb hlt
    have hall {d : Device} (hd : d ∈ m.values) :
        d.id ∈ (s.listing perPage).flatten.map (·.id) := by
      obtain ⟨page, hpage, part, hpart, hid⟩ := complete_listing h hword perPage hd
      exact List.mem_map.mpr ⟨part, List.mem_flatten.mpr ⟨page, hpage, hpart⟩, hid⟩
    -- of two ids, one comes first, and it is the smaller one with the smaller block
    have hpair := List.Pairwise.forall_of_forall_of_flip
      (R := fun x y => x < y → s.tables.blockOf x < s.tables.blockOf y)
      (l := (s.listing perPage).flatten.map (·.id)) (fun x _ hx => absurd hx (lt_irrefl x))
      (hblocks.imp fun hxy hlt => hxy.resolve_left (ne_of_lt hlt))
      (hids.imp fun hxy hlt => absurd hlt (not_lt.mpr hxy))
    exact hpair (hall ha) (hall hb) hlt
  · intro hordered
    have hstored {id : String} (hid : id ∈ (s.listing perPage).flatten.map (·.id)) :
        ∃ d ∈ m.values, d.id = id := by
      obtain ⟨part, hpart, rfl⟩ := List.mem_map.mp hid
      obtain ⟨page, hpage, hin⟩ := List.mem_flatten.mp hpart
      obtain ⟨d, hd, hpart⟩ := faithful_listing h hword hpage hin
      exact ⟨d, Table.mem_values_iff.mpr ⟨_, hd⟩, by rw [hpart]⟩
    have hids : ((s.listing perPage).flatten.map (·.id)).Pairwise (· ≤ ·) := by
      refine hblocks.imp_of_mem fun {x y} hx hy hxy => ?_
      rcases hxy with rfl | hxy
      · exact le_refl x
      · obtain ⟨a, ha, rfl⟩ := hstored hx
        obtain ⟨b, hb, rfl⟩ := hstored hy
        exact not_lt.mp fun hlt => lt_asymm hxy (hordered b hb a ha hlt)
    refine ⟨fun page hpage => ?_, hids⟩
    have hpageIds := hids.sublist ((List.sublist_flatten_of_mem hpage).map (·.id))
    have hne : (page.map (·.id)).Pairwise (· ≠ ·) := distinct_listing h hword hpage
    exact (hpageIds.and hne).imp fun ⟨hle, hne⟩ => lt_of_le_of_ne hle hne

/-! ## The blocks and the ids -/

/-- A device with resources is overtaken: the id of another one goes on after its id with a
character below the slash. -/
def Overtaken (devices : List Device) : Prop :=
  ∃ a ∈ devices, a.resources ≠ [] ∧ ∃ b ∈ devices, Id.Overtakes b.id a.id

instance (devices : List Device) : Decidable (Overtaken devices) :=
  inferInstanceAs (Decidable (∃ a ∈ devices, a.resources ≠ [] ∧ _))

theorem blockOf_lt_iff (h : s.tables.Stands m) {a b : Device} (ha : a ∈ m.values)
    (hb : b ∈ m.values) (hlt : a.id < b.id) :
    s.tables.blockOf a.id < s.tables.blockOf b.id ↔
      ¬(a.resources ≠ [] ∧ Id.Overtakes b.id a.id) := by
  have hrecord {d : Device} (hd : d ∈ m.values) : Id.IsRecord d.id := by
    obtain ⟨row, hrow, -⟩ := h.mem_values.mp hd
    exact (h.rows.device hrow).isRecord
  rw [DeviceTables.blockOf, DeviceTables.blockOf, Id.block_lt_iff (hrecord ha) (hrecord hb) hlt,
    decide_eq_false_iff_not, h.mem_bareIds_iff ha]

/-- The blocks of some of the devices are in the order of their ids unless one of these devices
overtakes another. -/
theorem blocks_ordered_of_subset (h : s.tables.Stands m) {devices : List Device}
    (hd : devices ⊆ m.values) :
    (∀ a ∈ devices, ∀ b ∈ devices, a.id < b.id →
      s.tables.blockOf a.id < s.tables.blockOf b.id) ↔ ¬Overtaken devices := by
  constructor
  · rintro hordered ⟨a, ha, hres, b, hb, hover⟩
    exact (blockOf_lt_iff h (hd ha) (hd hb) hover.lt).mp (hordered a ha b hb hover.lt)
      ⟨hres, hover⟩
  · intro hnot a ha b hb hlt
    refine (blockOf_lt_iff h (hd ha) (hd hb) hlt).mpr fun ⟨hres, hover⟩ => ?_
    exact hnot ⟨a, ha, hres, b, hb, hover⟩

theorem blocks_ordered_iff (h : s.tables.Stands m) :
    (∀ a ∈ m.values, ∀ b ∈ m.values, a.id < b.id →
      s.tables.blockOf a.id < s.tables.blockOf b.id) ↔ ¬Overtaken m.values :=
  blocks_ordered_of_subset h (List.Subset.refl _)

/-! ## What the pages show -/

/-- The devices on every page have ascending ids, and no device comes on a later page than one with
a greater id. -/
structure AscendingListing (s : DeviceStore) (perPage : UInt64) : Prop where
  onPage : ∀ page, ∃ shown, (s.getMany page perPage).result = .ok shown ∧
    (shown.items.map (·.id)).Pairwise fun a b => Text.bytes a < Text.bytes b
  acrossPages : ∀ page page' shown shown', 0 < page → page < page' →
    (s.getMany page perPage).result = .ok shown → (s.getMany page' perPage).result = .ok shown' →
    ∀ d ∈ shown.items, ∀ d' ∈ shown'.items, Text.bytes d.id ≤ Text.bytes d'.id

theorem toNat_position (h : s.tables.Stands m) {i : Nat} (hi : i < (s.listing perPage).length) :
    (UInt64.ofNat (i + 1)).toNat = i + 1 := by
  have hlt := (Paging.pageCount (UInt64.ofNat (unitCount m.values)) perPage s.maxPerPage).toNat_lt
  rw [length_listing h] at hi
  exact Paging.toNat_ofNat_of_lt (by omega)

/-- The page of the listing at a position is shown under the next number. -/
theorem result_getMany_succ (h : s.tables.Stands m) (hword : s.Addressable) {i : Nat}
    (hi : i < (s.listing perPage).length) :
    (s.getMany (UInt64.ofNat (i + 1)) perPage).result =
      .ok ⟨(s.listing perPage)[i], unitCount m.values⟩ := by
  have hpage : (Paging.pageNumber (UInt64.ofNat (i + 1))).toNat - 1 = i := by
    rw [Paging.toNat_pageNumber, toNat_position h hi]
    omega
  rw [result_getMany h hword, hpage, List.getElem?_eq_getElem hi]
  rfl

/-- A device on a page that is shown is on the page of the listing at that position. -/
theorem mem_listing_of_result (h : s.tables.Stands m) (hword : s.Addressable) {page : UInt64}
    {shown : Page Device} (hshown : (s.getMany page perPage).result = .ok shown) {d : Device}
    (hd : d ∈ shown.items) : ∃ hi : (Paging.pageNumber page).toNat - 1 < (s.listing perPage).length,
      d ∈ (s.listing perPage)[(Paging.pageNumber page).toNat - 1] := by
  rw [result_getMany h hword] at hshown
  obtain rfl := Except.ok.inj hshown
  cases hfound : (s.listing perPage)[(Paging.pageNumber page).toNat - 1]? with
  | none =>
    rw [hfound] at hd
    exact absurd hd List.not_mem_nil
  | some devices =>
    obtain ⟨hi, rfl⟩ := List.getElem?_eq_some_iff.mp hfound
    rw [hfound] at hd
    exact ⟨hi, hd⟩

theorem AscendingListing.pages (hl : s.AscendingListing perPage) (h : s.tables.Stands m)
    (hword : s.Addressable) : AscendingPages (s.listing perPage) := by
  have hpages : ∀ page ∈ s.listing perPage, (page.map (·.id)).Pairwise (· < ·) := by
    intro page hpage
    obtain ⟨i, hi, rfl⟩ := List.getElem_of_mem hpage
    obtain ⟨shown, hshown, hids⟩ := hl.onPage (UInt64.ofNat (i + 1))
    rw [result_getMany_succ h hword hi] at hshown
    obtain rfl := Except.ok.inj hshown
    exact hids.imp Text.bytes_lt_bytes_iff.mp
  refine ⟨hpages, ?_⟩
  rw [List.pairwise_map, List.pairwise_flatten]
  constructor
  · intro page hpage
    exact (List.pairwise_map.mp (hpages page hpage)).imp le_of_lt
  · refine List.pairwise_iff_getElem.mpr fun i j hi hj hij d hd d' hd' => ?_
    have hpos : 0 < UInt64.ofNat (i + 1) := by
      rw [UInt64.lt_iff_toNat_lt, toNat_position h hi]
      exact Nat.succ_pos i
    have hlt : UInt64.ofNat (i + 1) < UInt64.ofNat (j + 1) := by
      rw [UInt64.lt_iff_toNat_lt, toNat_position h hi, toNat_position h hj]
      omega
    exact Text.bytes_le_bytes_iff.mp (hl.acrossPages _ _ _ _ hpos hlt
      (result_getMany_succ h hword hi) (result_getMany_succ h hword hj) d hd d' hd')

theorem AscendingPages.listing (hl : AscendingPages (s.listing perPage)) (h : s.tables.Stands m)
    (hword : s.Addressable) : s.AscendingListing perPage where
  onPage page := by
    refine ⟨_, result_getMany h hword page perPage, ?_⟩
    cases hfound : (s.listing perPage)[(Paging.pageNumber page).toNat - 1]? with
    | none => exact List.Pairwise.nil
    | some devices =>
      exact (hl.1 devices (List.mem_of_getElem? hfound)).imp Text.bytes_lt_bytes_iff.mpr
  acrossPages page page' shown shown' hpos hlt hshown hshown' d hd d' hd' := by
    obtain ⟨hi, hd⟩ := mem_listing_of_result h hword hshown hd
    obtain ⟨hj, hd'⟩ := mem_listing_of_result h hword hshown' hd'
    have hij : (Paging.pageNumber page).toNat - 1 < (Paging.pageNumber page').toNat - 1 := by
      rw [UInt64.lt_iff_toNat_lt] at hpos hlt
      rw [UInt64.toNat_zero] at hpos
      rw [Paging.toNat_pageNumber, Paging.toNat_pageNumber]
      omega
    have hids := hl.2
    rw [List.pairwise_map, List.pairwise_flatten] at hids
    exact Text.bytes_le_bytes_iff.mpr
      (List.pairwise_iff_getElem.mp hids.2 _ _ hi hj hij d hd d' hd')

/-- A listing is in the order of the ids just when no device is overtaken. -/
theorem Reachable.ascending_iff (h : s.Reachable) (hword : s.Addressable) (perPage : UInt64) :
    s.AscendingListing perPage ↔ ¬Overtaken s.contents.values := by
  rw [← blocks_ordered_iff h.stands, ← ascendingPages_iff h.stands hword perPage]
  exact ⟨fun hl => hl.pages h.stands hword, fun hl => hl.listing h.stands hword⟩

/-- A bare device is not overtaken, whatever its id goes on with elsewhere. -/
theorem ascending_of_bare :
    let s := run {} [
      .record (.add .epoch { id := "a/b", ttl := -1 }),
      .record (.add .epoch { id := "a/b-c", ttl := -1, resources := [{ id := "a/b-c/x" }] })]
    s.Reachable ∧ s.Addressable ∧ s.AscendingListing 1 := by
  intro s
  have hs : s.Reachable := ⟨100, _, rfl⟩
  have hword : s.Addressable := by decide +kernel
  exact ⟨hs, hword, (hs.ascending_iff hword 1).mpr (by decide +kernel)⟩

/-- The hyphen is below the slash, so `a/b` is shown after `a/b-c`. -/
theorem not_ascending_of_overtaken :
    let s := run {} [
      .record (.add .epoch { id := "a/b", ttl := -1, resources := [{ id := "a/b/x" }] }),
      .record (.add .epoch { id := "a/b-c", ttl := -1 })]
    s.Reachable ∧ ¬s.AscendingListing 0 := by
  intro s
  refine ⟨⟨100, _, rfl⟩, fun hl => ?_⟩
  obtain ⟨shown, hshown, hids⟩ := hl.onPage 1
  have hpage : (s.getMany 1 0).result.toOption.map (·.items.map (·.id)) =
      some ["a/b-c", "a/b"] := by decide +kernel
  rw [hshown] at hpage
  obtain hpage : shown.items.map (·.id) = ["a/b-c", "a/b"] := Option.some.inj hpage
  rw [hpage] at hids
  exact absurd hids (by decide +kernel)

end DeviceStore

end EdgeCatalog
