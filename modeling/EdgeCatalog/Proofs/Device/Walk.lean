import Mathlib
import EdgeCatalog.Proofs.Device.Reading
import EdgeCatalog.Proofs.Paging.Walk

/-! Walking all pages. Whoever asks for one page after the other sees the units that are paged over,
in their order, provided that the units of a device stand together: a page shows its units device
by device, so it would bring units of one device together that stand apart. -/
namespace EdgeCatalog

/-! ## Units as they are shown -/

/-- The id of a device, and the id of one of its resources unless it has none. -/
abbrev ShownUnit := String × Option String

/-- The units of a device, or of the part of it on a page, in the order in which it carries them. -/
def Device.shownUnits (d : Device) : List ShownUnit :=
  if d.resources.isEmpty then [(d.id, none)]
  else d.resources.map fun r => (d.id, some r.id)

/-- Groups that stand together already are laid end to end in their order. -/
theorem flatMap_filter_eq {α κ : Type} [DecidableEq κ] {f : α → κ} {before : κ → κ → Prop}
    {below : α → α → Prop} (hbefore : ∀ j k, before j k → ¬before k j)
    (hbelow : ∀ a b, below a b → ¬below b a) {items : List α}
    (h : items.Pairwise fun a b => before (f a) (f b) ∨ f a = f b ∧ below a b) :
    ((items.map f).eraseDups.flatMap fun k => items.filter (f · = k)) = items := by
  have hkeys : (items.map f).eraseDups.Pairwise before :=
    pairwise_eraseDups (List.pairwise_map.mpr (h.imp fun hab => hab.imp_right And.left))
  have hgroups : (items.map f).eraseDups.Pairwise fun j k =>
      ∀ a ∈ items.filter (f · = j), ∀ b ∈ items.filter (f · = k),
        before (f a) (f b) ∨ f a = f b ∧ below a b := by
    refine hkeys.imp fun {j k} hjk a ha b hb => .inl ?_
    rwa [of_decide_eq_true (List.mem_filter.mp ha).2, of_decide_eq_true (List.mem_filter.mp hb).2]
  have hsorted := List.pairwise_flatMap.mpr
    ⟨fun k (_ : k ∈ (items.map f).eraseDups) => h.filter (f · = k), hgroups⟩
  -- both lists are sorted alike and hold the same items
  have hperm := flatMap_filter_perm (nodup_eraseDups (items.map f)) (f := f) fun x hx =>
    List.mem_eraseDups.mpr (List.mem_map_of_mem hx)
  refine hperm.eq_of_pairwise (fun a b _ _ hab hba => ?_) hsorted h
  rcases hab with hab | ⟨hsame, hab⟩
  · rcases hba with hba | ⟨hsame, -⟩
    · exact absurd hba (hbefore _ _ hab)
    · rw [hsame] at hab
      exact absurd hab (hbefore _ _ hab)
  · rcases hba with hba | ⟨-, hba⟩
    · rw [hsame] at hba
      exact absurd hba (hbefore _ _ hba)
    · exact absurd hba (hbelow _ _ hab)

namespace DeviceTables

variable {t : DeviceTables} {m : Table Device} {key : String} {keys : List String}

/-- A unit of the index as it is shown. -/
def shownUnit (t : DeviceTables) (key : String) : ShownUnit :=
  (t.ownerOf key, (t.resources.get? key).map (·.id))

theorem shownUnit_of_none (hr : t.resources.get? key = none) : t.shownUnit key = (key, none) := by
  rw [shownUnit, ownerOf_of_none hr, hr]
  rfl

theorem RowsAgree.shownUnit_of_some (h : t.RowsAgree) {r : Resource}
    (hr : t.resources.get? key = some r) : t.shownUnit key = (t.ownerOf key, some key) := by
  rw [shownUnit, hr, Option.map_some, (h.resource hr).id_eq]

/-- A unit is known by what is shown of it. -/
theorem RowsAgree.shownUnit_injective (h : t.RowsAgree) : Function.Injective t.shownUnit := by
  have hback (key : String) : (t.shownUnit key).2.getD (t.shownUnit key).1 = key := by
    cases hr : t.resources.get? key with
    | none =>
      rw [shownUnit_of_none hr]
      rfl
    | some r =>
      rw [h.shownUnit_of_some hr]
      rfl
  intro a b hab
  rw [← hback a, hab, hback b]

/-- A device without resources has one unit among those that are to be shown. -/
theorem Stands.filter_ownerOf_of_none (h : t.Stands m) (hk : keys ⊆ t.units.keys) (hd : keys.Nodup)
    (hkey : key ∈ keys) (hr : t.resources.get? key = none) :
    keys.filter (t.ownerOf · = key) = [key] := by
  have hself : ∀ other ∈ keys, decide (t.ownerOf other = key) = decide (other = key) := by
    intro other _
    refine decide_eq_decide.mpr ⟨h.eq_of_ownerOf (hk hkey) hr, ?_⟩
    rintro rfl
    exact ownerOf_of_none hr
  rw [List.filter_congr hself, List.filter_eq, List.count_eq_one_of_mem hd hkey,
    List.replicate_one]

/-- A device with a resource has no units besides its resources. -/
theorem Stands.map_resourcesAmong (h : t.Stands m) (hk : keys ⊆ t.units.keys) {r : Resource}
    (hr : t.resources.get? key = some r) :
    (t.resourcesAmong keys (t.ownerOf key)).map (fun r => (t.ownerOf key, some r.id)) =
      (keys.filter (t.ownerOf · = t.ownerOf key)).map t.shownUnit := by
  have hsome : ∀ other ∈ keys.filter (t.ownerOf · = t.ownerOf key),
      (t.resources.get? other).map (fun r => (t.ownerOf key, some r.id)) =
        some (t.shownUnit other) := by
    intro other ho
    obtain ⟨hin, howner⟩ := List.mem_filter.mp ho
    have howner := of_decide_eq_true howner
    cases hother : t.resources.get? other with
    | none =>
      rw [ownerOf_of_none hother] at howner
      rw [h.eq_of_ownerOf (hk hin) hother howner.symm, hother] at hr
      cases hr
    | some r' =>
      rw [Option.map_some, h.rows.shownUnit_of_some hother, howner, (h.rows.resource hother).id_eq]
  rw [resourcesAmong, List.map_filterMap, List.filterMap_congr hsome, List.filterMap_eq_map']

/-- What is shown of a device are its units among those that are to be shown. -/
theorem Stands.shownUnits_fragment (h : t.Stands m) (hk : keys ⊆ t.units.keys) (hd : keys.Nodup)
    {id : String} (hid : id ∈ keys.map t.ownerOf) :
    (t.fragment id (t.resourcesAmong keys id)).shownUnits =
      (keys.filter (t.ownerOf · = id)).map t.shownUnit := by
  obtain ⟨key, hkey, rfl⟩ := List.mem_map.mp hid
  obtain ⟨row, hrow⟩ := h.stored_ownerOf (hk hkey)
  rw [Device.shownUnits, h.rows.id_fragment hrow]
  cases hr : t.resources.get? key with
  | none =>
    have hempty : t.resourcesAmong keys key = [] := h.resourcesAmong_bare hk hkey hr
    rw [ownerOf_of_none hr, h.filter_ownerOf_of_none hk hd hkey hr, hempty, List.map_singleton,
      shownUnit_of_none hr]
    exact if_pos rfl
  | some r =>
    have hgiven : r ∈ t.resourcesAmong keys (t.ownerOf key) :=
      mem_resourcesAmong.mpr ⟨key, hkey, rfl, hr⟩
    rw [← h.map_resourcesAmong hk hr]
    refine if_neg ?_
    rw [List.isEmpty_iff]
    exact List.ne_nil_of_mem hgiven

/-- Units that stand together device by device are shown in their order. -/
theorem Stands.shownUnits_shown (h : t.Stands m) (hk : keys ⊆ t.units.keys) (hd : keys.Nodup)
    {before : String → String → Prop} (hbefore : ∀ a b, before a b → ¬before b a)
    (hgrouped : keys.Pairwise fun a b =>
      before (t.ownerOf a) (t.ownerOf b) ∨ t.ownerOf a = t.ownerOf b ∧ a < b) :
    (t.shown keys).flatMap Device.shownUnits = keys.map t.shownUnit := by
  rw [shown, grouped, List.flatMap_map, List.map_map]
  have hdevice : ∀ id ∈ (keys.map t.ownerOf).eraseDups,
      (t.fragment id (given (keys.map t.unit) id)).shownUnits =
        (keys.filter (t.ownerOf · = id)).map t.shownUnit := by
    intro id hid
    rw [given_unit]
    exact h.shownUnits_fragment hk hd (List.mem_eraseDups.mp hid)
  refine (List.flatMap_congr hdevice).trans ?_
  rw [← List.map_flatMap, flatMap_filter_eq hbefore (fun a b hab => lt_asymm hab) hgrouped]

/-- Whoever walks the pages sees the units, in their order. -/
theorem Stands.shownUnits_pages (h : t.Stands m) (hk : keys ⊆ t.units.keys) (hd : keys.Nodup)
    (before : String → String → Prop) (hbefore : ∀ a b, before a b → ¬before b a)
    (hgrouped : keys.Pairwise fun a b =>
      before (t.ownerOf a) (t.ownerOf b) ∨ t.ownerOf a = t.ownerOf b ∧ a < b)
    (hlen : keys.length < 2 ^ 64) (perPage maxPerPage : UInt64) :
    ((Paging.pages keys perPage maxPerPage).flatMap t.shown).flatMap Device.shownUnits =
      keys.map t.shownUnit := by
  have hall := Paging.flatten_pages hlen perPage maxPerPage
  have hpage : ∀ part ∈ Paging.pages keys perPage maxPerPage,
      (t.shown part).flatMap Device.shownUnits = part.map t.shownUnit := by
    intro part hpart
    have hsub : part.Sublist keys := by
      have hsub := List.sublist_flatten_of_mem hpart
      rwa [hall] at hsub
    exact h.shownUnits_shown (fun _ hkey => hk (hsub.subset hkey)) (hsub.nodup hd) hbefore
      (hgrouped.sublist hsub)
  rw [List.flatMap_assoc, List.flatMap_congr hpage, ← List.map_flatMap, List.flatMap_id', hall]

end DeviceTables

end EdgeCatalog
