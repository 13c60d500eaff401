import Mathlib
import EdgeCatalog.Proofs.Device.ResourceFiltering
import EdgeCatalog.Proofs.Json.Resolution

/-! Resources put back into devices. Whoever lists resources, in whatever order and under whatever
owners, gets the devices under which they are stored, one after the other as they first come up, and
every listed resource in the device that it belongs to. So a page of resources shows the devices
that the same page of devices shows. -/
namespace EdgeCatalog

/-- Where every item gives something, the gifts are collected in order. -/
theorem mapM_eq_filterMap {α β ε : Type} {f : α → Except ε β} {g : α → Option β} {l : List α}
    (h : ∀ a ∈ l, ∃ b, g a = some b ∧ f a = .ok b) : l.mapM f = .ok (l.filterMap g) := by
  induction l with
  | nil => rfl
  | cons a rest ih =>
    obtain ⟨b, hg, hf⟩ := h a List.mem_cons_self
    have hrest := ih fun a' hin => h a' (List.mem_cons_of_mem a hin)
    rw [List.mapM_cons, hf, hrest, List.filterMap_cons_some hg]
    rfl

namespace DeviceStore

open DeviceTables (Stands given)

variable {s : DeviceStore} {m : Table Device} {resources : List Resource} {r : Resource}
  {id : String}

/-! ## Stored owners -/

/-- The device under which the resource of that id is stored. -/
def storedOwner (s : DeviceStore) (r : Resource) : Option String :=
  (s.getResource r.id).result.toOption.map (·.device)

/-- The resource under its stored owner. -/
def claim (s : DeviceStore) (r : Resource) : Option (String × Option Resource) :=
  (s.storedOwner r).map fun owner => (owner, some { r with device := owner })

theorem claim_of_none (h : s.storedOwner r = none) : s.claim r = none := by
  rw [claim, h, Option.map_none]

theorem claim_of_some {owner : String} (h : s.storedOwner r = some owner) :
    s.claim r = some (owner, some { r with device := owner }) := by
  rw [claim, h, Option.map_some]

theorem storedOwner_eq (s : DeviceStore) (r : Resource) :
    s.storedOwner r = (s.tables.resources.get? r.id).map (·.device) := by
  rw [storedOwner, getResource]
  cases s.tables.resources.get? r.id <;> rfl

theorem withStoredOwner_eq (s : DeviceStore) (r : Resource) :
    s.withStoredOwner r = (s.claim r).elim (.error (.missing (.entry r.id))) .ok := by
  rw [withStoredOwner, claim, storedOwner_eq]
  cases s.tables.resources.get? r.id <;> rfl

theorem withStoredOwner_of_claim {unit : String × Option Resource} (h : s.claim r = some unit) :
    s.withStoredOwner r = .ok unit := by
  rw [withStoredOwner_eq, h]
  rfl

/-- Resources that are all stored are claimed, every one of them. -/
theorem mapM_withStoredOwner (h : ∀ r ∈ resources, (s.storedOwner r).isSome = true) :
    resources.mapM s.withStoredOwner = .ok (resources.filterMap s.claim) := by
  refine mapM_eq_filterMap fun r hr => ?_
  obtain ⟨owner, howner⟩ := Option.isSome_iff_exists.mp (h r hr)
  exact ⟨_, claim_of_some howner, withStoredOwner_of_claim (claim_of_some howner)⟩

theorem map_fst_claims (s : DeviceStore) (resources : List Resource) :
    (resources.filterMap s.claim).map Prod.fst = resources.filterMap s.storedOwner := by
  rw [List.map_filterMap]
  refine List.filterMap_congr fun r _ => ?_
  rw [claim, Option.map_map]
  exact Option.map_id'

/-- A device is given the resources that are stored under it, marked as its own. -/
theorem given_claims (s : DeviceStore) (resources : List Resource) (id : String) :
    given (resources.filterMap s.claim) id =
      (resources.filter (s.storedOwner · = some id)).map fun r => { r with device := id } := by
  rw [given, List.filter_filterMap, List.filterMap_filterMap, ← List.filterMap_eq_map,
    List.filterMap_filter]
  refine List.filterMap_congr fun r _ => ?_
  cases howner : s.storedOwner r with
  | none => simp [claim_of_none howner]
  | some owner =>
    by_cases hid : owner = id
    · simp [claim_of_some howner, Option.filter_some, hid]
    · simp [claim_of_some howner, Option.filter_some, hid]

theorem length_claims (h : ∀ r ∈ resources, (s.storedOwner r).isSome = true) :
    ((resources.filterMap s.claim).filterMap Prod.snd).length = resources.length := by
  rw [List.filterMap_filterMap, List.length_filterMap_eq_countP, List.countP_eq_length]
  intro r hr
  obtain ⟨owner, howner⟩ := Option.isSome_iff_exists.mp (h r hr)
  rw [claim_of_some howner]
  rfl

/-! ## Reconciliation -/

/-- Resources put into the devices under which they are stored. -/
structure Regroups (s : DeviceStore) (resources : List Resource) (devices : List Device) :
    Prop where
  /-- The owners, in the order in which they first come up. -/
  ids : devices.map (·.id) = (resources.filterMap s.storedOwner).eraseDups
  distinct : (devices.map (·.id)).Nodup
  /-- A device is as stored, but for its resources: they are those listed, in the order of the
  list, that are stored under it. -/
  parts : ∀ d ∈ devices, ∃ whole, (s.get d.id).result = .ok whole ∧
    d = { whole with
      resources := (resources.filter (s.storedOwner · = some d.id)).map fun r =>
        { r with device := d.id } }
  length_eq : (devices.map (·.resources.length)).sum = resources.length

theorem stored_claims (h : s.tables.Stands m) (resources : List Resource) :
    ∀ u ∈ resources.filterMap s.claim, ∃ row, s.tables.devices.get? u.1 = some row := by
  intro u hu
  obtain ⟨r, -, hr⟩ := List.mem_filterMap.mp hu
  exact stored_withStoredOwner h (withStoredOwner_of_claim hr)

theorem regroups_claims (h : s.tables.Stands m)
    (hstored : ∀ r ∈ resources, (s.storedOwner r).isSome = true) :
    s.Regroups resources (s.tables.grouped (resources.filterMap s.claim)) := by
  have hrows := stored_claims h resources
  have hids := h.rows.map_id_grouped hrows
  rw [map_fst_claims] at hids
  refine ⟨hids, ?_, ?_, ?_⟩
  · rw [hids]
    exact nodup_eraseDups _
  · intro d hd
    obtain ⟨owner, howner, rfl⟩ := List.mem_map.mp hd
    obtain ⟨u, hu, rfl⟩ := List.mem_map.mp (List.mem_eraseDups.mp howner)
    obtain ⟨row, hrow⟩ := hrows u hu
    rw [h.rows.id_fragment hrow, given_claims]
    refine ⟨_, result_get_of_row h hrow, ?_⟩
    rw [DeviceTables.fragment, hrow]
    rfl
  · have hperm := DeviceTables.flatMap_resources_grouped s.tables (resources.filterMap s.claim)
    rw [← List.length_flatMap, hperm.length_eq, length_claims hstored]

/-- Listed resources are put into the devices under which they are stored, unless one of them is not
stored: then the first such id is reported. Nothing is counted or changed. -/
theorem Reachable.reconciles (h : s.Reachable) (resources : List Resource) :
    (∀ before r after, resources = before ++ r :: after →
      (∀ earlier ∈ before, (s.storedOwner earlier).isSome = true) → s.storedOwner r = none →
      (s.devicesFromResources resources).result = .error (.missing (.entry r.id))) ∧
    ((∀ r ∈ resources, (s.storedOwner r).isSome = true) →
      ∃ devices, (s.devicesFromResources resources).result = .ok devices ∧
        s.Regroups resources devices) ∧
    (s.devicesFromResources resources).store = s := by
  rw [devicesFromResources_eq h.stands]
  refine ⟨?_, fun hstored => ?_, rfl⟩
  · rintro before r after rfl hbefore hr
    rw [List.mapM_append, mapM_withStoredOwner hbefore, List.mapM_cons, withStoredOwner_eq,
      claim_of_none hr]
    rfl
  · refine ⟨_, ?_, regroups_claims h.stands hstored⟩
    rw [mapM_withStoredOwner hstored]
    rfl

/-- Two devices whose resources are listed by turns, one of them twice, and not all of them under
their owners; and a list of which only the first resource is stored. -/
theorem reconciles_by_turns :
    let s := run {} [
      .record (.add .epoch { id := "a/b", resources := [{ id := "a/b/y" }, { id := "a/b/x" }] }),
      .record (.add .epoch { id := "a/c", resources := [{ id := "a/c/z" }] })]
    let listed : List Resource := [{ id := "a/c/z", device := "a/b" }, { id := "a/b/y" },
      { id := "a/c/z", name := "again" }, { id := "a/b/x", device := "a/d" }]
    (∃ devices, (s.devicesFromResources listed).result = .ok devices ∧
      devices.map (·.id) = ["a/c", "a/b"] ∧ s.Regroups listed devices) ∧
    (s.devicesFromResources [{ id := "a/b/x" }, { id := "a/b/z" }, { id := "a/d/x" }]).result =
      .error (.missing (.entry "a/b/z")) := by
  intro s listed
  have hs : s.Reachable := ⟨100, _, rfl⟩
  obtain ⟨-, hregroups, -⟩ := hs.reconciles listed
  obtain ⟨devices, hdevices, hparts⟩ := hregroups (by decide +kernel)
  refine ⟨⟨devices, hdevices, hparts.ids.trans (by decide +kernel), hparts⟩, ?_⟩
  obtain ⟨hmissing, -⟩ := hs.reconciles [{ id := "a/b/x" }, { id := "a/b/z" }, { id := "a/d/x" }]
  exact hmissing [{ id := "a/b/x" }] { id := "a/b/z" } [{ id := "a/d/x" }] rfl (by decide +kernel)
    (by decide +kernel)

/-! ## Pages of resources and of devices -/

/-- Without bare devices the units are the resources. -/
theorem units_keys_eq (h : s.tables.Stands m)
    (hfull : ∀ id d, (s.get id).result = .ok d → d.resources ≠ []) :
    s.tables.units.keys = s.tables.resources.values.map (·.id) := by
  have hbare : s.tables.bareIds = [] := by
    rw [h.bareIds_eq, List.map_eq_nil_iff, List.filter_eq_nil_iff]
    intro d hd hempty
    obtain ⟨id, hid⟩ := Table.mem_values_iff.mp hd
    exact hfull id d ((result_get_eq_ok_iff h).mpr hid) (List.isEmpty_iff.mp hempty)
  rw [h.units_keys, hbare, List.append_nil,
    s.tables.resources.map_values_eq_keys fun hr => (h.rows.resource hr).id_eq]
  exact (eq_sortKeys (s.tables.resources.pairwise_keys.imp le_of_lt) (List.Perm.refl _)).symm

/-- Every id begins with the empty text. -/
theorem eval_starts_id (r : Resource) :
    (⟨["id"], .startsWith, ""⟩ : Query).eval r.toJson = .ok true := by
  have hfound : r.toJson.resolve ["id"] = some (.string r.id) := by
    rw [Json.resolve_singleton, Resource.toJson, Json.objects, Json.field?_singleton]
    by_cases hdevice : r.device = ""
    · simp [Entries.find?, hdevice]
    · simp [Entries.find?, hdevice]
  rw [Query.eval, hfound]
  rfl

theorem result_filterResourceMany_id (h : s.tables.Stands m) (page perPage : UInt64) :
    (s.filterResourceMany "id" "prefix" "" page perPage).result =
      .ok ⟨Paging.window s.tables.resources.values page perPage s.maxPerPage,
        s.tables.resources.values.length⟩ := by
  have hq : Query.parse "id" "prefix" "" = .ok ⟨["id"], .startsWith, ""⟩ := by decide +kernel
  have hall : (s.tables.resources.values.filter fun r =>
      (⟨["id"], .startsWith, ""⟩ : Query).hits r.toJson) = s.tables.resources.values :=
    List.filter_eq_self.mpr fun r _ => Query.hits_of_eval (eval_starts_id r)
  rw [filterResourceMany_eq s hq, resourcesInOrder_eq h,
    Query.select_of_forall fun r _ => ⟨true, eval_starts_id r⟩, hall]
  rfl

/-- Stored resources are regrouped as units are, each under the owner that it names itself. -/
theorem result_devicesFromResources_of_subset (h : s.tables.Stands m)
    (hstored : resources ⊆ s.tables.resources.values) :
    (s.devicesFromResources resources).result =
      .ok (s.tables.shown (resources.map (·.id))) := by
  have hrow : ∀ r ∈ resources, s.tables.resources.get? r.id = some r := fun r hr =>
    (mem_values_resources_iff h).mp (hstored hr)
  have hclaims : resources.mapM s.withStoredOwner =
      .ok ((resources.map (·.id)).map s.tables.unit) := by
    rw [List.map_map]
    refine DeviceTables.mapM_eq_ok fun r hr => ?_
    rw [withStoredOwner, hrow r hr, Function.comp_apply, DeviceTables.unit,
      DeviceTables.ownerOf_of_some (hrow r hr), hrow r hr]
  rw [devicesFromResources_eq h, hclaims]
  rfl

/-- Where every device has a resource, a page of all resources, put back into devices, is the page
of devices with the same number. -/
theorem Reachable.resource_pages_regroup (h : s.Reachable)
    (hfull : ∀ id d, (s.get id).result = .ok d → d.resources ≠ []) (page perPage : UInt64) :
    ∃ items devices total,
      (s.filterResourceMany "id" "prefix" "" page perPage).result = .ok ⟨items, total⟩ ∧
      (s.devicesFromResources items).result = .ok devices ∧
      (s.getMany page perPage).result = .ok ⟨devices, total⟩ := by
  have hkeys := units_keys_eq h.stands hfull
  have hwindow := Paging.window_sublist s.tables.resources.values page perPage s.maxPerPage
  refine ⟨_, _, _, result_filterResourceMany_id h.stands page perPage,
    result_devicesFromResources_of_subset h.stands hwindow.subset, ?_⟩
  rw [getMany_eq h.stands, ← h.stands.length_units, hkeys, Paging.window_map, List.length_map]

/-- The second page cuts the device `a/b` in two. -/
theorem resource_pages_regroup_cut :
    let s := run { maxPerPage := 1 } [
      .record (.add .epoch { id := "a/b", resources := [{ id := "a/b/y" }, { id := "a/b/x" }] }),
      .record (.add .epoch { id := "a/c", resources := [{ id := "a/c/z" }] })]
    (∀ id d, (s.get id).result = .ok d → d.resources ≠ []) ∧
    ∃ items devices total,
      (s.filterResourceMany "id" "prefix" "" 2 0).result = .ok ⟨items, total⟩ ∧
      (s.devicesFromResources items).result = .ok devices ∧
      (s.getMany 2 0).result = .ok ⟨devices, total⟩ ∧
      items.map (·.id) = ["a/b/y"] ∧ devices.map (·.id) = ["a/b"] ∧ total = 3 := by
  intro s
  have hs : s.Reachable := ⟨1, _, rfl⟩
  have hfull : ∀ id d, (s.get id).result = .ok d → d.resources ≠ [] := by
    intro id d hd
    rw [result_get_eq_ok_iff hs.stands] at hd
    have hall : ∀ d ∈ s.contents.values, d.resources.isEmpty = false := by decide +kernel
    have hsome := hall d (Table.mem_values_iff.mpr ⟨id, hd⟩)
    exact List.isEmpty_eq_false_iff.mp hsome
  obtain ⟨items, devices, total, hitems, hdevices, hpage⟩ := hs.resource_pages_regroup hfull 2 0
  have hids : (s.filterResourceMany "id" "prefix" "" 2 0).result.toOption.map
      (fun page => page.items.map (·.id)) = some ["a/b/y"] := by decide +kernel
  have hshown : (s.getMany 2 0).result.toOption.map
      (fun page => (page.items.map (·.id), page.total)) = some (["a/b"], 3) := by decide +kernel
  rw [hitems] at hids
  rw [hpage] at hshown
  obtain ⟨hnames, htotal⟩ := Prod.mk.inj (Option.some.inj hshown)
  exact ⟨hfull, items, devices, total, hitems, hdevices, hpage, Option.some.inj hids, hnames,
    htotal⟩

end DeviceStore

end EdgeCatalog
