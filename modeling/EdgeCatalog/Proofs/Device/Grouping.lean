import Mathlib
import EdgeCatalog.Proofs.Device.Consistency

/-! Grouping units under their owners. The owners appear once each, in the order in which they first
come up, and every one of them carries its own resources in the order in which they were given. -/
namespace EdgeCatalog

/-! ## First occurrences -/

section FirstOccurrences

variable {α κ : Type} [DecidableEq κ]

theorem eraseDups_concat (l : List κ) (a : κ) :
    (l ++ [a]).eraseDups = if a ∈ l then l.eraseDups else l.eraseDups ++ [a] := by
  rw [List.eraseDups_append, List.removeAll]
  split <;> simp_all [List.eraseDups_cons]

theorem nodup_eraseDups (l : List κ) : l.eraseDups.Nodup := by
  induction l using List.reverseRecOn with
  | nil => exact List.nodup_nil
  | append_singleton l a ih =>
    rw [eraseDups_concat]
    split
    · exact ih
    · rename_i ha
      rw [List.nodup_append_comm, List.singleton_append, List.nodup_cons, List.mem_eraseDups]
      exact ⟨ha, ih⟩

theorem eraseDups_sublist (l : List κ) : l.eraseDups.Sublist l := by
  induction l using List.reverseRecOn with
  | nil => exact List.Sublist.refl _
  | append_singleton l a ih =>
    rw [eraseDups_concat]
    split
    · exact ih.trans (List.sublist_append_left l [a])
    · exact ih.append (List.Sublist.refl _)

/-- Where equal keys are next to each other, the first occurrences are in order. -/
theorem pairwise_eraseDups {before : κ → κ → Prop} {l : List κ}
    (h : l.Pairwise fun j k => before j k ∨ j = k) : l.eraseDups.Pairwise before := by
  have hne : l.eraseDups.Pairwise (· ≠ ·) := nodup_eraseDups l
  exact ((h.sublist (eraseDups_sublist l)).and hne).imp fun ⟨hjk, hne⟩ => hjk.resolve_right hne

/-- Groups, one for every key, hold what was grouped. -/
theorem flatMap_filter_perm {f : α → κ} {keys : List κ} (hd : keys.Nodup) {items : List α}
    (hcover : ∀ x ∈ items, f x ∈ keys) :
    (keys.flatMap fun k => items.filter (f · = k)).Perm items := by
  induction keys generalizing items with
  | nil =>
    have hnone : items = [] := List.eq_nil_iff_forall_not_mem.mpr fun x hx =>
      List.not_mem_nil (hcover x hx)
    rw [hnone]
    exact List.Perm.refl _
  | cons k rest ih =>
    obtain ⟨hk, hrest⟩ := List.nodup_cons.mp hd
    have hothers : ∀ x ∈ items.filter (fun x => !decide (f x = k)), f x ∈ rest := by
      intro x hx
      obtain ⟨hin, hne⟩ := List.mem_filter.mp hx
      refine (List.mem_cons.mp (hcover x hin)).resolve_left ?_
      simpa using hne
    have hsame : (rest.flatMap fun k' => items.filter (f · = k')) =
        rest.flatMap fun k' => (items.filter (fun x => !decide (f x = k))).filter (f · = k') := by
      refine List.flatMap_congr fun k' hk' => ?_
      rw [List.filter_filter]
      refine List.filter_congr fun x _ => ?_
      by_cases hx : f x = k'
      · have hne : k' ≠ k := fun h => hk (h ▸ hk')
        simp [hx, hne]
      · simp [hx]
    rw [List.flatMap_cons, hsame]
    exact ((ih hrest hothers).append_left _).trans (List.filter_append_perm _ _)

end FirstOccurrences

namespace DeviceTables

/-- Paging units with their owners. -/
abbrev Owned := List (String × Option Resource)

/-- The resources that units give an owner. -/
def given (units : Owned) (owner : String) : List Resource :=
  (units.filter (·.1 = owner)).filterMap Prod.snd

/-- A stored device with some resources in place of its own. -/
def fragment (t : DeviceTables) (owner : String) (resources : List Resource) : Device :=
  { ((t.devices.get? owner).map (·.device)).getD {} with resources }

/-- The owners of units with the resources that the units give them. -/
def groups (t : DeviceTables) (units : Owned) : Gathered :=
  (units.map Prod.fst).eraseDups.map fun owner => (owner, t.fragment owner (given units owner))

/-- The devices that units are grouped into. -/
def grouped (t : DeviceTables) (units : Owned) : List Device :=
  (units.map Prod.fst).eraseDups.map fun owner => t.fragment owner (given units owner)

variable {t : DeviceTables}

theorem given_concat (units : Owned) (owner : String) (resource : Option Resource) (id : String) :
    given (units ++ [(owner, resource)]) id =
      if id = owner then given units id ++ resource.toList else given units id := by
  rw [given, List.filter_append, List.filterMap_append]
  by_cases hid : id = owner
  · subst hid
    rw [if_pos rfl, List.filter_singleton]
    cases resource <;> simp [given]
  · simp [given, hid, Ne.symm hid]

theorem given_of_notMem {units : Owned} {owner : String} (h : owner ∉ units.map Prod.fst) :
    given units owner = [] := by
  have hnone : units.filter (·.1 = owner) = [] := by
    refine List.filter_eq_nil_iff.mpr fun u hu hown => h ?_
    rw [← of_decide_eq_true hown]
    exact List.mem_map_of_mem hu
  rw [given, hnone, List.filterMap_nil]

/-- A resource goes to the one device of that id. -/
theorem give_map {ids : List String} (hd : ids.Nodup) {owner : String} (ho : owner ∈ ids)
    (f : String → Device) (r : Resource) :
    Gathered.give owner r (ids.map fun id => (id, f id)) =
      ids.map fun id =>
        (id, if id = owner then { f id with resources := (f id).resources ++ [r] } else f id) := by
  induction ids with
  | nil => exact absurd ho List.not_mem_nil
  | cons id rest ih =>
    obtain ⟨hid, hrest⟩ := List.nodup_cons.mp hd
    rw [List.map_cons, List.map_cons, Gathered.give]
    by_cases he : id = owner
    · subst he
      rw [if_pos rfl, if_pos rfl]
      refine congrArg _ (List.map_congr_left fun other hother => ?_)
      rw [if_neg (ne_of_mem_of_not_mem hother hid)]
    · rw [if_neg he, if_neg he, ih hrest ((List.mem_cons.mp ho).resolve_left (Ne.symm he))]

theorem gatherAll_append (t : DeviceTables) (found : Gathered) (us vs : Owned) :
    t.gatherAll found (us ++ vs) = (t.gatherAll found us).bind fun found => t.gatherAll found vs := by
  induction us generalizing found with
  | nil => rfl
  | cons u rest ih =>
    rw [List.cons_append, gatherAll, gatherAll]
    cases t.gather found u.1 u.2 with
    | error e => rfl
    | ok found => exact ih found

/-- Giving a unit to its owner, once the owner is among the groups. -/
theorem give_groups (t : DeviceTables) (units : Owned) (owner : String)
    (resource : Option Resource) {ids : List String} (hd : ids.Nodup) (ho : owner ∈ ids) :
    (match resource with
      | some r => Gathered.give owner r (ids.map fun id => (id, t.fragment id (given units id)))
      | none => ids.map fun id => (id, t.fragment id (given units id))) =
      ids.map fun id => (id, t.fragment id (given (units ++ [(owner, resource)]) id)) := by
  cases resource with
  | none =>
    refine List.map_congr_left fun id _ => ?_
    rw [given_concat]
    split
    · rw [Option.toList_none, List.append_nil]
    · rfl
  | some r =>
    dsimp only
    rw [give_map hd ho]
    refine List.map_congr_left fun id _ => ?_
    rw [given_concat]
    split <;> rfl

/-- One more unit, whether or not its owner has come up before. -/
theorem gather_groups (units : Owned) {owner : String} {row : StoredDevice}
    (hrow : t.devices.get? owner = some row) (resource : Option Resource) :
    t.gather (t.groups units) owner resource = .ok (t.groups (units ++ [(owner, resource)])) := by
  have hany : (t.groups units).any (·.1 = owner) = true ↔ owner ∈ units.map Prod.fst := by
    rw [← List.mem_eraseDups, groups, List.any_map, List.any_eq_true]
    simp
  have hmem : owner ∈ ((units ++ [(owner, resource)]).map Prod.fst).eraseDups := by
    rw [List.mem_eraseDups, List.map_append]
    exact List.mem_append_right _ (List.mem_singleton_self owner)
  have hgive := give_groups t units owner resource (nodup_eraseDups _) hmem
  rw [← groups, List.map_append, List.map_singleton, eraseDups_concat] at hgive
  rw [gather]
  dsimp only
  by_cases hin : owner ∈ units.map Prod.fst
  · rw [if_pos (hany.mpr hin)]
    rw [if_pos hin] at hgive
    exact congrArg Except.ok hgive
  · rw [if_neg (mt hany.mp hin), hrow]
    rw [if_neg hin, List.map_append, List.map_singleton, given_of_notMem hin, fragment, hrow] at hgive
    exact congrArg Except.ok hgive

theorem gatherAll_eq {units : Owned} (h : ∀ u ∈ units, ∃ row, t.devices.get? u.1 = some row) :
    t.gatherAll [] units = .ok (t.groups units) := by
  induction units using List.reverseRecOn with
  | nil => rfl
  | append_singleton units u ih =>
    obtain ⟨row, hrow⟩ := h u (List.mem_append_right _ (List.mem_singleton_self u))
    rw [gatherAll_append, ih fun u hu => h u (List.mem_append_left _ hu)]
    show t.gatherAll (t.groups units) [(u.1, u.2)] = _
    rw [gatherAll, gather_groups units hrow]
    rfl

/-- Units of stored owners can always be grouped. -/
theorem reconcile_eq {units : Owned} (h : ∀ u ∈ units, ∃ row, t.devices.get? u.1 = some row) :
    t.reconcile units = .ok (t.grouped units) := by
  rw [reconcile, gatherAll_eq h, Except.map, groups, List.map_map]
  rfl

/-! ## What the groups hold -/

/-- Nothing that the units give is lost or doubled. -/
theorem flatMap_resources_grouped (t : DeviceTables) (units : Owned) :
    ((t.grouped units).flatMap (·.resources)).Perm (units.filterMap Prod.snd) := by
  have hgroups := flatMap_filter_perm (nodup_eraseDups (units.map Prod.fst)) (f := Prod.fst)
    fun u (hu : u ∈ units) => List.mem_eraseDups.mpr (List.mem_map_of_mem hu)
  have hsame : (t.grouped units).flatMap (·.resources) =
      ((units.map Prod.fst).eraseDups.flatMap fun o => units.filter (·.1 = o)).filterMap
        Prod.snd := by
    rw [grouped, List.flatMap_map, List.filterMap_flatMap]
    rfl
  rw [hsame]
  exact hgroups.filterMap _

/-- A stored device keeps its id, whatever resources it is shown with. -/
theorem RowsAgree.id_fragment (h : t.RowsAgree) {owner : String} {row : StoredDevice}
    (hrow : t.devices.get? owner = some row) (resources : List Resource) :
    (t.fragment owner resources).id = owner := by
  rw [fragment, hrow]
  exact (h.device hrow).id_eq

theorem RowsAgree.map_id_grouped (h : t.RowsAgree) {units : Owned}
    (hstored : ∀ u ∈ units, ∃ row, t.devices.get? u.1 = some row) :
    (t.grouped units).map (·.id) = (units.map Prod.fst).eraseDups := by
  rw [grouped, List.map_map]
  refine (List.map_congr_left fun owner howner => ?_).trans (List.map_id _)
  obtain ⟨u, hu, rfl⟩ := List.mem_map.mp (List.mem_eraseDups.mp howner)
  obtain ⟨row, hrow⟩ := hstored u hu
  exact h.id_fragment hrow _

/-- The group under an id holds what the units give to that id. -/
theorem RowsAgree.filter_grouped (h : t.RowsAgree) {units : Owned}
    (hstored : ∀ u ∈ units, ∃ row, t.devices.get? u.1 = some row) (id : String) :
    ((t.grouped units).filter (·.id = id)).flatMap (·.resources) = given units id := by
  have hown : ∀ owner ∈ (units.map Prod.fst).eraseDups,
      (decide ((t.fragment owner (given units owner)).id = id)) = decide (owner = id) := by
    intro owner howner
    obtain ⟨u, hu, rfl⟩ := List.mem_map.mp (List.mem_eraseDups.mp howner)
    obtain ⟨row, hrow⟩ := hstored u hu
    rw [h.id_fragment hrow]
  rw [grouped, List.filter_map, List.flatMap_map, Function.comp_def, List.filter_congr hown,
    List.filter_eq]
  by_cases hid : id ∈ units.map Prod.fst
  · rw [List.count_eq_one_of_mem (nodup_eraseDups _) (List.mem_eraseDups.mpr hid)]
    simp [fragment]
  · rw [List.count_eq_zero_of_not_mem (fun hin => hid (List.mem_eraseDups.mp hin)),
      given_of_notMem hid]
    rfl

end DeviceTables

end EdgeCatalog
