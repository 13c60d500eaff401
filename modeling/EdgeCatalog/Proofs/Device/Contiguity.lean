import Mathlib
import EdgeCatalog.Proofs.Device.FilterOrder

/-! Devices stand together among the paging units. Of the units of two devices, those of one come
before all those of the other, so no foreign unit gets in between; a page, which is a stretch of the
units, cuts no other devices than its first and its last one. -/
namespace EdgeCatalog

/-! ## Lists in the order of their keys -/

section Groups

variable {α κ : Type} [DecidableEq κ] {f : α → κ} {upTo : κ → κ → Prop} {l : List α}

/-- Entries with the least key stand in front. -/
theorem exists_back_of_ordered (hanti : ∀ j k, upTo j k → upTo k j → j = k)
    (h : (l.map f).Pairwise upTo) {k : κ} (hleast : ∀ x ∈ l, upTo k (f x)) :
    ∃ back, l = l.filter (f · = k) ++ back ∧ ∀ x ∈ back, f x ≠ k := by
  induction l with
  | nil => exact ⟨[], rfl, fun _ hx => absurd hx List.not_mem_nil⟩
  | cons x rest ih =>
    obtain ⟨hfirst, hrest⟩ := List.pairwise_cons.mp h
    by_cases hx : f x = k
    · obtain ⟨back, hsplit, hothers⟩ := ih hrest fun y hy => hleast y (List.mem_cons_of_mem x hy)
      refine ⟨back, ?_, hothers⟩
      rw [List.filter_cons, if_pos (decide_eq_true hx), List.cons_append, ← hsplit]
    · have hothers : ∀ y ∈ x :: rest, f y ≠ k := by
        intro y hy hyk
        rcases List.mem_cons.mp hy with rfl | hy
        · exact hx hyk
        · have hxk : upTo (f x) k := hyk ▸ hfirst (f y) (List.mem_map_of_mem hy)
          exact hx (hanti _ _ hxk (hleast x List.mem_cons_self))
      refine ⟨x :: rest, ?_, hothers⟩
      rw [List.filter_eq_nil_iff.mpr fun y hy => by simpa using hothers y hy, List.nil_append]

/-- Entries with one key stand together. -/
theorem exists_split_of_ordered (hanti : ∀ j k, upTo j k → upTo k j → j = k)
    (h : (l.map f).Pairwise upTo) (k : κ) :
    ∃ front back, l = front ++ l.filter (f · = k) ++ back ∧ ∀ x ∈ front ++ back, f x ≠ k := by
  induction l with
  | nil => exact ⟨[], [], rfl, fun _ hx => absurd hx List.not_mem_nil⟩
  | cons x rest ih =>
    obtain ⟨hfirst, hrest⟩ := List.pairwise_cons.mp h
    by_cases hx : f x = k
    · -- the first entry with the key begins the group
      have hleast : ∀ y ∈ rest, upTo k (f y) := by
        intro y hy
        rw [← hx]
        exact hfirst (f y) (List.mem_map_of_mem hy)
      obtain ⟨back, hsplit, hothers⟩ := exists_back_of_ordered hanti hrest hleast
      refine ⟨[], back, ?_, hothers⟩
      rw [List.filter_cons, if_pos (decide_eq_true hx), List.nil_append, List.cons_append, ← hsplit]
    · obtain ⟨front, back, hsplit, hothers⟩ := ih hrest
      refine ⟨x :: front, back, ?_, ?_⟩
      · rw [List.filter_cons, if_neg (by simpa using hx), List.cons_append, List.cons_append,
          ← hsplit]
      · intro y hy
        rcases List.mem_cons.mp hy with rfl | hy
        · exact hx
        · exact hothers y hy

/-- A stretch of the list has all entries with a key that comes between two keys of the stretch. -/
theorem filter_eq_of_between (hanti : ∀ j k, upTo j k → upTo k j → j = k) {stretch : List α}
    (h : (l.map f).Pairwise upTo) (hstretch : stretch <:+: l) {first k last : κ}
    (hfirst : first ∈ stretch.map f) (hlast : last ∈ stretch.map f) (hk : upTo first k)
    (hne : first ≠ k) (hk' : upTo k last) (hne' : k ≠ last) :
    stretch.filter (f · = k) = l.filter (f · = k) := by
  obtain ⟨front, back, rfl⟩ := hstretch
  rw [List.map_append, List.map_append, List.pairwise_append, List.pairwise_append] at h
  obtain ⟨⟨-, -, hfront⟩, -, hback⟩ := h
  have hnone : front.filter (f · = k) = [] := by
    refine List.filter_eq_nil_iff.mpr fun x hx hxk => hne ?_
    have hlate := hfront (f x) (List.mem_map_of_mem hx) first hfirst
    rw [of_decide_eq_true hxk] at hlate
    exact hanti _ _ hk hlate
  have hnone' : back.filter (f · = k) = [] := by
    refine List.filter_eq_nil_iff.mpr fun x hx hxk => hne' ?_
    have hearly := hback last (List.mem_append_right _ hlast) (f x) (List.mem_map_of_mem hx)
    rw [of_decide_eq_true hxk] at hearly
    exact hanti _ _ hk' hearly
  rw [List.filter_append, List.filter_append, hnone, hnone', List.nil_append, List.append_nil]

end Groups

namespace DeviceTables

variable {t : DeviceTables} {m : Table Device} {keys : List String} {d : Device}

/-- One device comes before another one when its block does. -/
def UpTo (t : DeviceTables) (id id' : String) : Prop :=
  id = id' ∨ t.blockOf id < t.blockOf id'

theorem UpTo.antisymm (t : DeviceTables) (id id' : String) (h : t.UpTo id id')
    (h' : t.UpTo id' id) : id = id' := by
  rcases h with hsame | hlt
  · exact hsame
  · rcases h' with hsame | hlt'
    · exact hsame.symm
    · exact absurd hlt' (lt_asymm hlt)

/-- A unit belongs to a stored device. -/
theorem Stands.exists_unitsOf (h : t.Stands m) {key : String} (hk : key ∈ t.units.keys) :
    ∃ d ∈ m.values, key ∈ unitsOf d ∧ t.ownerOf key = d.id := by
  obtain ⟨d, hd, hkey⟩ := List.mem_flatMap.mp (h.units_perm.mem_iff.mp hk)
  exact ⟨d, hd, hkey, h.ownerOf_of_mem hd hkey⟩

/-- Among all units, those of a device are the ones that it is the owner of. -/
theorem Stands.filter_ownerOf (h : t.Stands m) (hd : d ∈ m.values) :
    t.units.keys.filter (t.ownerOf · = d.id) = unitsOf d := by
  have hmem (key : String) : key ∈ t.units.keys.filter (t.ownerOf · = d.id) ↔ key ∈ unitsOf d := by
    rw [List.mem_filter, decide_eq_true_iff]
    constructor
    · rintro ⟨hk, howner⟩
      obtain ⟨d', hd', hkey, howner'⟩ := h.exists_unitsOf hk
      have hfound := h.get?_of_mem hd'
      rw [← howner', howner, h.get?_of_mem hd] at hfound
      rwa [Option.some.inj hfound]
    · intro hkey
      have hin : key ∈ m.values.flatMap unitsOf := List.mem_flatMap.mpr ⟨d, hd, hkey⟩
      exact ⟨h.units_perm.mem_iff.mpr hin, h.ownerOf_of_mem hd hkey⟩
  have hall := h.pairwise_units.filter fun key => decide (t.ownerOf key = d.id)
  have hunits := h.pairwise_unitsOf hd
  have hperm := (List.perm_ext_iff_of_nodup (hall.imp ne_of_lt) (hunits.imp ne_of_lt)).mpr hmem
  exact hperm.eq_of_pairwise (fun a b _ _ hab hba => absurd hba (lt_asymm hab)) hall hunits

/-- The units of a device stand together. -/
theorem Stands.exists_split (h : t.Stands m) (hd : d ∈ m.values) :
    ∃ front back, t.units.keys = front ++ unitsOf d ++ back ∧
      ∀ key ∈ front ++ back, t.ownerOf key ≠ d.id := by
  rw [← h.filter_ownerOf hd]
  exact exists_split_of_ordered (UpTo.antisymm t) h.pairwise_owners d.id

/-- The devices that are shown of a stretch of the units come in the order of their blocks. -/
theorem Stands.pairwise_shown (h : t.Stands m) (hk : keys <:+: t.units.keys) :
    ((t.shown keys).map (·.id)).Pairwise fun a b => t.UpTo a b ∧ a ≠ b := by
  have hne : ((t.shown keys).map (·.id)).Pairwise (· ≠ ·) := h.nodup_shown hk.subset
  have howners := h.pairwise_owners.sublist (hk.sublist.map t.ownerOf)
  rw [h.map_id_shown hk.subset] at hne ⊢
  exact (howners.sublist (eraseDups_sublist _)).and hne

/-- A stretch of the units has all resources of a device that is shown between two others. -/
theorem Stands.resourcesAmong_inner (h : t.Stands m) (hk : keys <:+: t.units.keys)
    {before after : List Device} (hshown : t.shown keys = before ++ d :: after)
    (hbefore : before ≠ []) (hafter : after ≠ []) :
    t.resourcesAmong keys d.id = t.resourcesAmong t.units.keys d.id := by
  obtain ⟨first, hfirst⟩ := List.exists_mem_of_ne_nil before hbefore
  obtain ⟨last, hlast⟩ := List.exists_mem_of_ne_nil after hafter
  have howner {part : Device} (hpart : part ∈ t.shown keys) : part.id ∈ keys.map t.ownerOf := by
    have hid : part.id ∈ (t.shown keys).map (·.id) := List.mem_map_of_mem hpart
    rwa [h.map_id_shown hk.subset, List.mem_eraseDups] at hid
  have hfirst' := howner (hshown ▸ List.mem_append_left _ hfirst)
  have hlast' := howner (hshown ▸ List.mem_append_right _ (List.mem_cons_of_mem d hlast))
  have hids := h.pairwise_shown hk
  rw [hshown, List.pairwise_map, List.pairwise_append, List.pairwise_cons] at hids
  obtain ⟨-, ⟨hlater, -⟩, hearlier⟩ := hids
  obtain ⟨hle, hne⟩ := hearlier first hfirst d List.mem_cons_self
  obtain ⟨hle', hne'⟩ := hlater last hlast
  rw [resourcesAmong, resourcesAmong]
  exact congrArg (List.filterMap t.resources.get?)
    (filter_eq_of_between (UpTo.antisymm t) h.pairwise_owners hk hfirst' hlast' hle hne hle' hne')

/-- A device that is shown between two others is shown whole. -/
theorem Stands.whole_inner (h : t.Stands m) (hk : keys <:+: t.units.keys)
    {before after : List Device} (hshown : t.shown keys = before ++ d :: after)
    (hbefore : before ≠ []) (hafter : after ≠ []) :
    ∃ whole, m.get? d.id = some whole ∧ d = { whole with resources := d.resources } ∧
      d.resources.Perm whole.resources := by
  have hd : d ∈ t.shown keys := by
    rw [hshown]
    exact List.mem_append_right _ List.mem_cons_self
  obtain ⟨whole, hwhole, heq⟩ := h.stored_of_mem_shown hk.subset hd
  have hresources : d.resources = t.resourcesAmong t.units.keys d.id := by
    rw [← h.resourcesAmong_inner hk hshown hbefore hafter]
    exact congrArg Device.resources heq
  refine ⟨whole, hwhole, by rw [heq], ?_⟩
  rw [hresources]
  exact h.resourcesAmong_units hwhole

end DeviceTables

namespace DeviceStore

open DeviceTables (Stands unitsOf)

variable {s : DeviceStore} {m : Table Device}

/-- The units of every device stand together, and every page respects it. -/
structure Contiguous (s : DeviceStore) : Prop where
  sorted : s.tables.units.keys.Pairwise fun a b => Text.bytes a < Text.bytes b
  /-- The units of a device follow one upon the other; those before and behind belong to other
  devices. -/
  together : ∀ id d, (s.get id).result = .ok d → ∃ front back,
    s.tables.units.keys = front ++ unitsOf d ++ back ∧
      ∀ key ∈ front ++ back, ∃ other, (s.get other.id).result = .ok other ∧ other.id ≠ d.id ∧
        key ∈ unitsOf other
  /-- A page shows its units device by device in the order in which they stand. -/
  unmoved : ∀ page perPage, ∃ shown, (s.getMany page perPage).result = .ok shown ∧
    shown.items.flatMap Device.shownUnits =
      (Paging.window s.tables.units.keys page perPage s.maxPerPage).map s.tables.shownUnit
  /-- A device between the first and the last one of a page has all its resources. -/
  inner : ∀ page perPage shown, (s.getMany page perPage).result = .ok shown →
    ∀ before d after, shown.items = before ++ d :: after → before ≠ [] → after ≠ [] →
      ∃ whole, (s.get d.id).result = .ok whole ∧ d = { whole with resources := d.resources } ∧
        d.resources.Perm whole.resources

theorem exists_split_units (h : s.tables.Stands m) {id : String} {d : Device}
    (hd : (s.get id).result = .ok d) : ∃ front back,
      s.tables.units.keys = front ++ unitsOf d ++ back ∧
        ∀ key ∈ front ++ back, ∃ other, (s.get other.id).result = .ok other ∧ other.id ≠ d.id ∧
          key ∈ unitsOf other := by
  have hd : d ∈ m.values := Table.mem_values_iff.mpr ⟨id, (result_get_eq_ok_iff h).mp hd⟩
  obtain ⟨front, back, hsplit, hothers⟩ := h.exists_split hd
  refine ⟨front, back, hsplit, fun key hkey => ?_⟩
  have hin : key ∈ s.tables.units.keys := by
    rw [hsplit]
    rcases List.mem_append.mp hkey with hkey | hkey
    · exact List.mem_append_left _ (List.mem_append_left _ hkey)
    · exact List.mem_append_right _ hkey
  obtain ⟨other, hother, hunit, howner⟩ := h.exists_unitsOf hin
  refine ⟨other, (result_get_eq_ok_iff h).mpr (h.get?_of_mem hother), ?_, hunit⟩
  rw [← howner]
  exact hothers key hkey

theorem shownUnits_window (h : s.tables.Stands m) (page perPage : UInt64) :
    (s.tables.shown (Paging.window s.tables.units.keys page perPage s.maxPerPage)).flatMap
        Device.shownUnits =
      (Paging.window s.tables.units.keys page perPage s.maxPerPage).map s.tables.shownUnit := by
  have hsub := Paging.window_sublist s.tables.units.keys page perPage s.maxPerPage
  have hbefore : ∀ a b : String, s.tables.blockOf a < s.tables.blockOf b →
      ¬s.tables.blockOf b < s.tables.blockOf a := fun _ _ hab => lt_asymm hab
  exact h.shownUnits_shown hsub.subset (hsub.nodup (nodup_units h)) hbefore
    ((grouped_units h).sublist hsub)

/-- The units of a device stand together, whatever the ids of the others. -/
theorem Reachable.contiguous (h : s.Reachable) : s.Contiguous where
  sorted := h.stands.pairwise_units.imp Text.bytes_lt_bytes_iff.mpr
  together _ _ hd := exists_split_units h.stands hd
  unmoved page perPage := by
    rw [getMany_eq h.stands]
    exact ⟨_, rfl, shownUnits_window h.stands page perPage⟩
  inner page perPage shown hshown before d after hitems hbefore hafter := by
    rw [getMany_eq h.stands] at hshown
    obtain rfl := Except.ok.inj hshown
    have hwindow := Paging.isInfix_window s.tables.units.keys page perPage s.maxPerPage
    obtain ⟨whole, hwhole, heq, hperm⟩ := h.stands.whole_inner hwindow hitems hbefore hafter
    exact ⟨whole, (result_get_eq_ok_iff h.stands).mpr hwhole, heq, hperm⟩

/-- The id `a/b` begins three others, one of which goes on with a character below the slash and one
with a character above it. -/
theorem contiguous_of_common_prefix :
    let s := run {} [
      .record (.add .epoch
        { id := "a/b", ttl := -1, resources := [{ id := "a/b/y" }, { id := "a/b/x" }] }),
      .record (.add .epoch { id := "a/b-c", ttl := -1, resources := [{ id := "a/b-c/z" }] }),
      .record (.add .epoch { id := "a/b ", ttl := -1 }),
      .record (.add .epoch { id := "a/bc", ttl := -1, resources := [{ id := "a/bc/x" }] })]
    s.Reachable ∧ s.Contiguous ∧
      s.tables.units.keys = ["a/b ", "a/b-c/z", "a/b/x", "a/b/y", "a/bc/x"] := by
  intro s
  have hs : s.Reachable := ⟨100, _, rfl⟩
  exact ⟨hs, hs.contiguous, by decide +kernel⟩

end DeviceStore

end EdgeCatalog
