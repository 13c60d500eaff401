import Mathlib
import EdgeCatalog.Proofs.Device.ListingOrder
import EdgeCatalog.Proofs.Device.Walk

/-! The order of a filter beside that of a listing. A filter goes through the devices by their ids
and lists the units of one after the other; a listing goes through the sorted units. Both come to
the same order just when no device that matches is overtaken by another one. -/
namespace EdgeCatalog

/-- Leaving entries out is the same as expanding them to nothing. -/
theorem flatMap_filter_ite {α β : Type} (keep : α → Bool) (f : α → List β) (l : List α) :
    (l.filter keep).flatMap f = l.flatMap fun x => if keep x then f x else [] := by
  induction l with
  | nil => rfl
  | cons x rest ih =>
    rw [List.filter_cons, List.flatMap_cons, ← ih]
    split
    · rw [List.flatMap_cons]
    · rw [List.nil_append]

namespace DeviceTables

variable {t : DeviceTables} {m : Table Device}

/-- The units of a device belong to it. -/
theorem Stands.ownerOf_of_mem (h : t.Stands m) {d : Device} (hd : d ∈ m.values) {key : String}
    (hkey : key ∈ unitsOf d) : t.ownerOf key = d.id := by
  rw [unitsOf] at hkey
  split at hkey
  · rename_i hempty
    obtain rfl := List.mem_singleton.mp hkey
    refine ownerOf_of_none (h.rows.get?_resources_of_bare ?_)
    exact (h.mem_bareIds_iff hd).mpr (List.isEmpty_iff.mp hempty)
  · obtain ⟨r, hr, rfl⟩ := List.mem_map.mp (mem_sortKeys.mp hkey)
    obtain ⟨row, hrow, rfl⟩ := h.mem_values.mp hd
    obtain ⟨hlisted, hfound⟩ := h.rows.mem_resources_whole.mp hr
    obtain ⟨r', hr', howner⟩ := (h.rows.device hrow).owned r.id hlisted
    obtain rfl := Option.some.inj (hfound.symm.trans hr')
    rw [ownerOf_of_some hfound, howner]

/-- The units of a device are sorted. -/
theorem Stands.pairwise_unitsOf (h : t.Stands m) {d : Device} (hd : d ∈ m.values) :
    (unitsOf d).Pairwise (· < ·) := by
  rw [unitsOf]
  split
  · exact List.pairwise_singleton _ _
  · exact pairwise_lt_sortKeys (h.nodup_resourceIds hd)

theorem unitsOf_ne_nil (d : Device) : unitsOf d ≠ [] := by
  rw [← List.length_pos_iff, length_unitsOf]
  omega

/-- Units of two devices are in the order of the blocks. -/
theorem Stands.unit_lt_iff (h : t.Stands m) {key key' : String} (hk : key ∈ t.units.keys)
    (hk' : key' ∈ t.units.keys) (hne : t.ownerOf key ≠ t.ownerOf key') :
    key < key' ↔ t.blockOf (t.ownerOf key) < t.blockOf (t.ownerOf key') :=
  Id.unit_lt_iff (h.isRecord_ownerOf hk) (h.isRecord_ownerOf hk') hne (h.isUnit hk) (h.isUnit hk')

/-- The units of the index with an owner that is kept are those of the devices that are kept. -/
theorem Stands.filter_units_perm (h : t.Stands m) {keep : Device → Bool} {kept : String → Bool}
    (hkeep : ∀ d ∈ m.values, kept d.id = keep d) :
    (t.units.keys.filter fun key => kept (t.ownerOf key)).Perm
      ((m.values.filter keep).flatMap unitsOf) := by
  have hunits : ∀ d ∈ m.values, (unitsOf d).filter (fun key => kept (t.ownerOf key)) =
      if keep d then unitsOf d else [] := by
    intro d hd
    have hall : ∀ key ∈ unitsOf d, kept (t.ownerOf key) = keep d := by
      intro key hkey
      rw [h.ownerOf_of_mem hd hkey, hkeep d hd]
    rw [List.filter_congr hall]
    split
    · rename_i hyes
      exact List.filter_eq_self.mpr fun _ _ => hyes
    · rename_i hno
      exact List.filter_eq_nil_iff.mpr fun _ _ => hno
  have hperm := h.units_perm.filter fun key => kept (t.ownerOf key)
  rwa [List.filter_flatMap, List.flatMap_congr hunits, ← flatMap_filter_ite] at hperm

end DeviceTables

namespace DeviceStore

open DeviceTables (Stands unitsOf)

variable {s : DeviceStore} {m : Table Device} {devices : List Device}

/-! ## The units of some of the devices -/

/-- The units of devices taken by their ids are sorted unless a device is overtaken. -/
theorem pairwise_flatMap_unitsOf_iff (h : s.tables.Stands m) (hd : devices ⊆ m.values)
    (hids : devices.Pairwise fun a b => a.id < b.id) :
    (devices.flatMap unitsOf).Pairwise (· < ·) ↔ ¬Overtaken devices := by
  have hunit {d : Device} (hin : d ∈ devices) {key : String} (hkey : key ∈ unitsOf d) :
      key ∈ s.tables.units.keys ∧ s.tables.ownerOf key = d.id :=
    ⟨h.units_subset hd (List.mem_flatMap.mpr ⟨d, hin, hkey⟩), h.ownerOf_of_mem (hd hin) hkey⟩
  have hlt {a b : Device} (ha : a ∈ devices) (hb : b ∈ devices) (hne : a.id ≠ b.id) {x y : String}
      (hx : x ∈ unitsOf a) (hy : y ∈ unitsOf b) :
      x < y ↔ s.tables.blockOf a.id < s.tables.blockOf b.id := by
    obtain ⟨hxin, hxa⟩ := hunit ha hx
    obtain ⟨hyin, hyb⟩ := hunit hb hy
    have hiff := h.unit_lt_iff hxin hyin (by rw [hxa, hyb]; exact hne)
    rwa [hxa, hyb] at hiff
  rw [← blocks_ordered_of_subset h hd, List.pairwise_flatMap]
  constructor
  · rintro ⟨-, hacross⟩ a ha b hb hab
    -- of two devices, the one with the smaller id comes first
    have hfirst : devices.Pairwise fun a b =>
        a.id < b.id → ∀ x ∈ unitsOf a, ∀ y ∈ unitsOf b, x < y := by
      refine hacross.imp ?_
      exact fun hxy _ => hxy
    have hpair := List.Pairwise.forall_of_forall_of_flip
      (fun a _ haa => absurd haa (lt_irrefl a.id)) hfirst
      (hids.imp fun hab hba => absurd hba (lt_asymm hab))
    obtain ⟨x, hx⟩ := List.exists_mem_of_ne_nil _ (DeviceTables.unitsOf_ne_nil a)
    obtain ⟨y, hy⟩ := List.exists_mem_of_ne_nil _ (DeviceTables.unitsOf_ne_nil b)
    exact (hlt ha hb (ne_of_lt hab) hx hy).mp (hpair ha hb hab x hx y hy)
  · intro hordered
    refine ⟨fun d hin => h.pairwise_unitsOf (hd hin), hids.imp_of_mem ?_⟩
    intro a b ha hb hab x hx y hy
    exact (hlt ha hb (ne_of_lt hab) hx hy).mpr (hordered a ha b hb hab)

/-- Units of devices taken by their ids stand together device by device. -/
theorem grouped_flatMap_unitsOf (h : s.tables.Stands m) (hd : devices ⊆ m.values)
    (hids : devices.Pairwise fun a b => a.id < b.id) :
    (devices.flatMap unitsOf).Pairwise fun x y =>
      s.tables.ownerOf x < s.tables.ownerOf y ∨
        s.tables.ownerOf x = s.tables.ownerOf y ∧ x < y := by
  refine List.pairwise_flatMap.mpr ⟨fun d hin => ?_, hids.imp_of_mem ?_⟩
  · refine (h.pairwise_unitsOf (hd hin)).imp_of_mem fun {x y} hx hy hxy => .inr ⟨?_, hxy⟩
    rw [h.ownerOf_of_mem (hd hin) hx, h.ownerOf_of_mem (hd hin) hy]
  · intro a b ha hb hab x hx y hy
    left
    rwa [h.ownerOf_of_mem (hd ha) hx, h.ownerOf_of_mem (hd hb) hy]

/-- The sorted units stand together device by device. -/
theorem grouped_units (h : s.tables.Stands m) :
    s.tables.units.keys.Pairwise fun x y =>
      s.tables.blockOf (s.tables.ownerOf x) < s.tables.blockOf (s.tables.ownerOf y) ∨
        s.tables.ownerOf x = s.tables.ownerOf y ∧ x < y := by
  have howners := List.pairwise_map.mp h.pairwise_owners
  exact (howners.and h.pairwise_units).imp fun ⟨howner, hxy⟩ =>
    howner.elim (fun hsame => .inr ⟨hsame, hxy⟩) .inl

theorem nodup_flatMap_unitsOf (h : s.tables.Stands m) (hd : devices.Sublist m.values) :
    (devices.flatMap unitsOf).Nodup := by
  have hall : (m.values.flatMap unitsOf).Nodup := h.units_perm.nodup_iff.mp (nodup_units h)
  exact (hd.flatMap _).nodup hall

/-- The units of some of the devices can be counted in a word, as those of all can. -/
theorem Addressable.length_flatMap_unitsOf (hword : s.Addressable) (h : s.tables.Stands m)
    (hd : devices.Sublist m.values) : (devices.flatMap unitsOf).length < 2 ^ 64 := by
  have hle := (hd.flatMap unitsOf).length_le
  rw [← h.units_perm.length_eq] at hle
  exact lt_of_le_of_lt hle hword

/-! ## What is seen on all pages -/

/-- Does the query match the device that is read back under the id? -/
def hits (s : DeviceStore) (q : Query) (id : String) : Bool :=
  match (s.get id).result with
  | .ok d => q.hits d.toJson
  | .error _ => false

theorem hits_of_mem (h : s.tables.Stands m) (q : Query) {d : Device} (hd : d ∈ m.values) :
    s.hits q d.id = q.hits d.toJson := by
  rw [hits, result_get h, DeviceMap.get, h.get?_of_mem hd]

/-- The units on all pages of a listing. -/
def listedUnits (s : DeviceStore) (perPage : UInt64) : Except Error (List ShownUnit) :=
  (Paging.walk (fun page => (s.getMany page perPage).result) perPage s.maxPerPage).map
    (·.flatMap Device.shownUnits)

/-- The units on all pages of a filter. -/
def filteredUnits (s : DeviceStore) (path relation value : String) (perPage : UInt64) :
    Except Error (List ShownUnit) :=
  (Paging.walk (fun page => (s.filterMany path relation value page perPage).result) perPage
    s.maxPerPage).map (·.flatMap Device.shownUnits)

theorem listedUnits_eq (h : s.tables.Stands m) (hword : s.Addressable) (perPage : UInt64) :
    s.listedUnits perPage = .ok (s.tables.units.keys.map s.tables.shownUnit) := by
  have hwalk : Paging.walk (fun page => (s.getMany page perPage).result) perPage s.maxPerPage =
      .ok ((Paging.pages s.tables.units.keys perPage s.maxPerPage).flatMap s.tables.shown) :=
    Paging.walk_windows fun page => by rw [getMany_eq h, h.length_units]
  rw [listedUnits, hwalk]
  refine congrArg Except.ok ?_
  exact h.shownUnits_pages (List.Subset.refl _) (nodup_units h)
    (fun a b => s.tables.blockOf a < s.tables.blockOf b) (fun _ _ hab => lt_asymm hab)
    (grouped_units h) hword perPage s.maxPerPage

/-- The devices that match, by their ids. -/
def matching (s : DeviceStore) (q : Query) : List Device :=
  s.contents.values.filter fun d => q.hits d.toJson

section Found

variable {path relation value : String} {q : Query}

/-- Once the query was put to every device, the units of those that match are paged. -/
theorem result_filterMany (h : s.tables.Stands m) (hq : Query.parse path relation value = .ok q)
    (hfound : q.select Device.toJson m.values = .ok devices) (page perPage : UInt64) :
    (s.filterMany path relation value page perPage).result =
      .ok ⟨s.tables.shown (Paging.window (devices.flatMap unitsOf) page perPage s.maxPerPage),
        (devices.flatMap unitsOf).length⟩ := by
  rw [filterMany_ok h hq hfound, DeviceTables.length_flatMap_unitsOf]

theorem walk_filterMany (h : s.tables.Stands m) (hq : Query.parse path relation value = .ok q)
    (hfound : q.select Device.toJson m.values = .ok devices) (perPage : UInt64) :
    Paging.walk (fun page => (s.filterMany path relation value page perPage).result) perPage
        s.maxPerPage =
      .ok ((Paging.pages (devices.flatMap unitsOf) perPage s.maxPerPage).flatMap s.tables.shown) :=
  Paging.walk_windows fun page => result_filterMany h hq hfound page perPage

theorem filteredUnits_eq (h : s.tables.Stands m) (hword : s.Addressable)
    (hq : Query.parse path relation value = .ok q)
    (hfound : q.select Device.toJson m.values = .ok devices) (perPage : UInt64) :
    s.filteredUnits path relation value perPage =
      .ok ((devices.flatMap unitsOf).map s.tables.shownUnit) := by
  rw [filteredUnits, walk_filterMany h hq hfound]
  refine congrArg Except.ok ?_
  have hd := Query.sublist_of_select hfound
  exact h.shownUnits_pages (h.units_subset hd.subset) (nodup_flatMap_unitsOf h hd)
    (fun a b => a < b) (fun _ _ hab => lt_asymm hab)
    (grouped_flatMap_unitsOf h hd.subset (h.pairwise_ids.sublist hd))
    (hword.length_flatMap_unitsOf h hd) perPage s.maxPerPage

end Found

/-! ## Where both come to the same order -/

/-- The units of the devices that are kept, device after device, are those units of the index that
belong to them just when none of these devices is overtaken. -/
theorem flatMap_unitsOf_eq_iff (h : s.tables.Stands m) (keep : Device → Bool)
    (kept : String → Bool) (hkeep : ∀ d ∈ m.values, kept d.id = keep d) :
    (m.values.filter keep).flatMap unitsOf =
        s.tables.units.keys.filter (fun key => kept (s.tables.ownerOf key)) ↔
      ¬Overtaken (m.values.filter keep) := by
  have hsorted : (s.tables.units.keys.filter fun key => kept (s.tables.ownerOf key)).Pairwise
      (· < ·) := h.pairwise_units.filter _
  rw [← pairwise_flatMap_unitsOf_iff h (List.filter_subset_self _) (h.pairwise_ids.filter _)]
  constructor
  · intro heq
    rwa [heq]
  · intro hpair
    -- the same units in two sorted lists
    exact (h.filter_units_perm hkeep).symm.eq_of_pairwise
      (fun a b _ _ hab hba => absurd hba (lt_asymm hab)) hpair hsorted

/-- The pages of a filter show the units that the pages of a listing show, those of the devices
that match, in the same order. -/
def FollowsListing (s : DeviceStore) (q : Query) (path relation value : String)
    (perPage : UInt64) : Prop :=
  ∃ listed found, s.listedUnits perPage = .ok listed ∧
    s.filteredUnits path relation value perPage = .ok found ∧
    found = listed.filter fun unit => s.hits q unit.1

theorem followsListing_iff (h : s.tables.Stands s.contents) (hword : s.Addressable)
    {path relation value : String} {q : Query} (hq : Query.parse path relation value = .ok q)
    (hfound : q.select Device.toJson s.contents.values = .ok devices) (perPage : UInt64) :
    s.FollowsListing q path relation value perPage ↔ ¬Overtaken (s.matching q) := by
  have hlisted := listedUnits_eq h hword perPage
  have hfiltered := filteredUnits_eq h hword hq hfound perPage
  obtain rfl := Query.select_eq_ok hfound
  have hsame := flatMap_unitsOf_eq_iff h (fun d => q.hits d.toJson) (s.hits q)
    fun d hd => hits_of_mem h q hd
  -- a unit is known by what is shown of it
  rw [matching, ← hsame, ← (List.map_injective_iff.mpr h.rows.shownUnit_injective).eq_iff,
    FollowsListing]
  constructor
  · rintro ⟨listed, found, hl, hf, heq⟩
    obtain rfl := Except.ok.inj (hlisted.symm.trans hl)
    obtain rfl := Except.ok.inj (hfiltered.symm.trans hf)
    rw [heq, List.filter_map]
    rfl
  · intro heq
    refine ⟨_, _, hlisted, hfiltered, ?_⟩
    rw [heq, List.filter_map]
    rfl

/-- A query that every device matches gives the pages of the listing just when no device is
overtaken. -/
theorem pages_eq_iff (h : s.tables.Stands m) (hword : s.Addressable) {path relation value : String}
    {q : Query} (hq : Query.parse path relation value = .ok q)
    (hfound : q.select Device.toJson m.values = .ok devices)
    (hall : ∀ d ∈ m.values, q.hits d.toJson = true) (perPage : UInt64) :
    (∀ page, (s.filterMany path relation value page perPage).result =
        (s.getMany page perPage).result) ↔ ¬Overtaken m.values := by
  obtain rfl : devices = m.values :=
    (Query.select_eq_ok hfound).trans (List.filter_eq_self.mpr hall)
  have hsame := flatMap_unitsOf_eq_iff h (fun d => q.hits d.toJson) (fun _ => true)
    fun d hd => (hall d hd).symm
  rw [List.filter_eq_self.mpr hall, List.filter_true] at hsame
  rw [← hsame]
  constructor
  · intro hpages
    have hwalks : s.filteredUnits path relation value perPage = s.listedUnits perPage := by
      rw [filteredUnits, listedUnits, funext hpages]
    rw [filteredUnits_eq h hword hq hfound, listedUnits_eq h hword] at hwalks
    exact List.map_injective_iff.mpr h.rows.shownUnit_injective (Except.ok.inj hwalks)
  · intro heq page
    rw [filterMany_ok h hq hfound, getMany_eq h, heq]

/-- The pages of a filter follow those of a listing just when none of the devices that match is
overtaken by another one that matches. -/
theorem Reachable.filter_follows_iff (h : s.Reachable) (hword : s.Addressable)
    {path relation value : String} {page size : UInt64} {shown : Page Device}
    (hok : (s.filterMany path relation value page size).result = .ok shown) :
    ∃ q, Query.parse path relation value = .ok q ∧ ∀ perPage,
      (s.FollowsListing q path relation value perPage ↔ ¬Overtaken (s.matching q)) ∧
      ((∀ d ∈ s.contents.values, q.hits d.toJson = true) →
        ((∀ page, (s.filterMany path relation value page perPage).result =
          (s.getMany page perPage).result) ↔ ¬Overtaken s.contents.values)) := by
  cases hq : Query.parse path relation value with
  | error e =>
    rw [filterMany, hq] at hok
    cases hok
  | ok q =>
    cases hfound : q.select Device.toJson s.contents.values with
    | error e =>
      rw [filterMany_error h.stands hq hfound] at hok
      cases hok
    | ok found =>
      refine ⟨q, rfl, fun perPage => ⟨followsListing_iff h.stands hword hq hfound perPage, ?_⟩⟩
      exact fun hall => pages_eq_iff h.stands hword hq hfound hall perPage

/-- The device `a/b` has resources and is overtaken by `a/b-c`, but does not match. -/
theorem filter_follows_of_unmatched :
    let s := run {} [
      .record (.add .epoch { id := "a/b", ttl := -1, resources := [{ id := "a/b/x" }] }),
      .record (.add .epoch { id := "a/b-c", ttl := -1 })]
    s.Reachable ∧ s.Addressable ∧
      (∃ shown, (s.filterMany "id" "suffix" "c" 1 0).result = .ok shown) ∧
      s.FollowsListing ⟨["id"], .endsWith, "c"⟩ "id" "suffix" "c" 1 := by
  intro s
  have hs : s.Reachable := ⟨100, _, rfl⟩
  have hword : s.Addressable := by decide +kernel
  have hok : ∃ shown, (s.filterMany "id" "suffix" "c" 1 0).result = .ok shown := ⟨_, by rfl⟩
  obtain ⟨shown, hshown⟩ := hok
  obtain ⟨q, hq, hfollows⟩ := hs.filter_follows_iff hword hshown
  have hparse : Query.parse "id" "suffix" "c" = .ok ⟨["id"], .endsWith, "c"⟩ := by decide +kernel
  obtain rfl := Except.ok.inj (hparse.symm.trans hq)
  exact ⟨hs, hword, ⟨shown, hshown⟩, (hfollows 1).1.mpr (by decide +kernel)⟩

/-- The empty text begins every id, and yet the filter lists `a/b` before `a/b-c` and the listing
lists it after. -/
theorem not_follows_of_overtaken :
    let s := run {} [
      .record (.add .epoch { id := "a/b", ttl := -1, resources := [{ id := "a/b/x" }] }),
      .record (.add .epoch { id := "a/b-c", ttl := -1 })]
    s.Reachable ∧ Query.parse "id" "prefix" "" = .ok ⟨["id"], .startsWith, ""⟩ ∧
      ¬s.FollowsListing ⟨["id"], .startsWith, ""⟩ "id" "prefix" "" 0 ∧
      (s.filterMany "id" "prefix" "" 1 0).result ≠ (s.getMany 1 0).result := by
  intro s
  refine ⟨⟨100, _, rfl⟩, by decide +kernel, ?_, fun hsame => ?_⟩
  · rintro ⟨listed, found, hlisted, hfound, heq⟩
    have hl : s.listedUnits 0 = .ok [("a/b-c", none), ("a/b", some "a/b/x")] := by decide +kernel
    have hf : s.filteredUnits "id" "prefix" "" 0 = .ok [("a/b", some "a/b/x"), ("a/b-c", none)] := by
      decide +kernel
    obtain rfl := Except.ok.inj (hl.symm.trans hlisted)
    obtain rfl := Except.ok.inj (hf.symm.trans hfound)
    exact absurd heq (by decide +kernel)
  · have hids := congrArg (fun result => result.toOption.map (·.items.map (·.id))) hsame
    exact absurd hids (by decide +kernel)

end DeviceStore

end EdgeCatalog
