import Mathlib
import EdgeCatalog.Proofs.Device.Reading
import EdgeCatalog.Proofs.Store.Effect

/-! Lifetimes of devices. Every call changes the contents by its effect, so a device that no call
touches is kept until a sweep finds it expired, and then nothing is left of it or of its
resources. -/
namespace EdgeCatalog

instance : CallStore DeviceStore DeviceCall Device where
  call := DeviceStore.call
  shared?
    | .record operation => some operation
    | .resource _ => none

namespace DeviceStore

open DeviceTables (Stands unitCount)

variable {s : DeviceStore} {m : Table Device}

/-- What a call does to the map is its effect. -/
theorem call_eq_effect (h : s.tables.Stands m) (c : DeviceCall) :
    DeviceMap.call m c = Effect.apply m (CallStore.effect s c) := by
  cases c with
  | record operation =>
    show _ = Effect.apply m (operation.effect s)
    cases operation with
    | add now d =>
      have hresult : (RecordStore.add s now d).result = _ := (add_simulates h now d).1
      rw [Operation.effect, DeviceMap.call, hresult]
      rcases DeviceMap.add_cases m now d with ⟨e, hadd⟩ | ⟨expires, -, -, -, hadd⟩
      · rw [hadd]
        rfl
      · rw [hadd]
        rfl
    | update now id d =>
      have hresult : (RecordStore.update s now id d).result = _ := (update_simulates h now id d).1
      rw [Operation.effect, DeviceMap.call, hresult]
      rcases DeviceMap.update_cases m now id d with ⟨e, hupdate⟩ | ⟨expires, old, -, -, -, hupdate⟩
      · rw [hupdate]
        rfl
      · rw [hupdate]
        rfl
    | delete id =>
      have hresult : (RecordStore.delete s id).result = _ := (delete_simulates h id).1
      rw [Operation.effect, DeviceMap.call, hresult]
      rcases DeviceMap.delete_cases m id with ⟨e, hdelete⟩ | ⟨d, -, hdelete⟩
      · rw [hdelete]
        rfl
      · rw [hdelete]
        rfl
    | cleanExpired now =>
      have hkeep : (fun d : Device => !d.isExpired now) = survives [now] :=
        funext fun d => (survives_singleton now d).symm
      rw [Operation.effect, DeviceMap.call, Effect.apply, DeviceMap.cleanExpired, hkeep]
    | get id => rfl
    | getMany page perPage => rfl
    | filterOne path relation value => rfl
    | filterMany path relation value page perPage => rfl
  | resource command => rfl

theorem tracks : CallStore.Tracks Reachable contents where
  valid_call hs c := hs.call c
  records_call hs c := (stands_call hs.stands c).contents.trans (call_eq_effect hs.stands c)
  get hs _ _ := result_get_eq_ok_iff hs.stands

/-! ## What is gone -/

/-- The devices under other ids. -/
def others (s : DeviceStore) (id : String) : List Device :=
  s.contents.values.filter (·.id ≠ id)

/-- Is it a resource of another device, and under another id than those of the device? -/
def IsForeign (r : Device) (resource : Resource) : Prop :=
  resource.device ≠ r.id ∧ resource.id ∉ r.resources.map (·.id)

/-- Is it another device, without any of the resources? -/
def IsOther (r d : Device) : Prop :=
  d.id ≠ r.id ∧ ∀ resource ∈ d.resources, IsForeign r resource

/-- Nothing is left of a device and its resources: they are not found, not listed and not
counted. -/
structure Gone (s : DeviceStore) (r : Device) : Prop where
  get : (s.get r.id).result = .error (.missing (.entry r.id))
  getResource : ∀ resource ∈ r.resources,
    (s.getResource resource.id).result = .error (.missing (.entry resource.id))
  getMany : ∀ page perPage shown, (s.getMany page perPage).result = .ok shown →
    (∀ d ∈ shown.items, IsOther r d) ∧ shown.total = unitCount (s.others r.id)
  filterOne : ∀ path relation value d,
    (s.filterOne path relation value).result = .ok d → IsOther r d
  filterMany : ∀ path relation value page perPage shown,
    (s.filterMany path relation value page perPage).result = .ok shown →
    (∀ d ∈ shown.items, IsOther r d) ∧ ∃ q, Query.parse path relation value = .ok q ∧
      shown.total = unitCount ((s.others r.id).filter fun d => q.hits d.toJson)
  filterResourceOne : ∀ path relation value resource,
    (s.filterResourceOne path relation value).result = .ok resource → IsForeign r resource
  filterResourceMany : ∀ path relation value page perPage shown,
    (s.filterResourceMany path relation value page perPage).result = .ok shown →
    (∀ resource ∈ shown.items, IsForeign r resource) ∧
      ∃ q, Query.parse path relation value = .ok q ∧
        shown.total = (((s.others r.id).flatMap (·.resources)).filter fun resource =>
          q.hits resource.toJson).length
  size : s.size = (s.others r.id).length
  resourceCount : s.resourceCount = ((s.others r.id).flatMap (·.resources)).length

section

variable {r : Device}

/-- The resource rows belong to other devices once the row of the device is gone. -/
theorem isForeign_of_row (h : s.tables.Stands m) (hr : r.Storable) (hnone : m.get? r.id = none)
    {key : String} {resource : Resource} (hrow : s.tables.resources.get? key = some resource) :
    IsForeign r resource := by
  obtain ⟨hid, hname, row, howner, -⟩ := h.rows.resource hrow
  -- a row names its owner, and the owner of every row is stored
  have hne : resource.device ≠ r.id := by
    intro hsame
    rw [hsame] at howner
    have hfound := h.get? r.id
    rw [howner, hnone] at hfound
    cases hfound
  -- the id of a resource tells its owner
  refine ⟨hne, fun hin => hne ?_⟩
  obtain ⟨own, hown, hsame⟩ := List.mem_map.mp hin
  rw [← hid, ← hsame] at hname
  exact hname.owner_unique (hr.owned own hown).2

theorem isOther_of_mem (h : s.tables.Stands m) (hr : r.Storable) (hnone : m.get? r.id = none)
    {d : Device} (hd : d ∈ m.values) : IsOther r d := by
  refine ⟨fun hsame => ?_, fun resource hin => ?_⟩
  · rw [← hsame, h.get?_of_mem hd] at hnone
    cases hnone
  · obtain ⟨row, -, rfl⟩ := h.mem_values.mp hd
    exact isForeign_of_row h hr hnone (h.rows.mem_resources_whole.mp hin).2

theorem isOther_of_mem_shown (h : s.tables.Stands m) (hr : r.Storable)
    (hnone : m.get? r.id = none) {keys : List String} (hk : keys ⊆ s.tables.units.keys) {d : Device}
    (hd : d ∈ s.tables.shown keys) : IsOther r d := by
  obtain ⟨stored, hstored, heq⟩ := h.stored_of_mem_shown hk hd
  refine ⟨fun hsame => ?_, fun resource hin => ?_⟩
  · rw [hsame, hnone] at hstored
    cases hstored
  · rw [heq] at hin
    obtain ⟨key, -, -, hresource⟩ := DeviceTables.mem_resourcesAmong.mp hin
    exact isForeign_of_row h hr hnone hresource

theorem isForeign_of_mem_resourcesInOrder (h : s.tables.Stands m) (hr : r.Storable)
    (hnone : m.get? r.id = none) {resource : Resource} (hin : resource ∈ s.resourcesInOrder) :
    IsForeign r resource := by
  obtain ⟨key, -, hrow⟩ := List.mem_filterMap.mp hin
  exact isForeign_of_row h hr hnone hrow

theorem gone_of_get? (hs : s.Reachable) (hr : r.Storable) (hnone : s.contents.get? r.id = none) :
    s.Gone r := by
  have h := hs.stands
  have hothers : s.others r.id = s.contents.values :=
    List.filter_eq_self.mpr fun d hd => decide_eq_true (isOther_of_mem h hr hnone hd).1
  constructor
  case get => rw [result_get h, DeviceMap.get, hnone]
  case getResource =>
    intro resource hin
    rw [getResource]
    cases hrow : s.tables.resources.get? resource.id with
    | none => rfl
    | some stored =>
      have hforeign := isForeign_of_row h hr hnone hrow
      rw [IsForeign, (h.rows.resource hrow).id_eq] at hforeign
      exact absurd (List.mem_map_of_mem hin) hforeign.2
  case getMany =>
    intro page perPage shown hshown
    rw [getMany_eq h] at hshown
    obtain rfl := Except.ok.inj hshown
    rw [hothers]
    exact ⟨fun d hd =>
      isOther_of_mem_shown h hr hnone (Paging.window_sublist _ _ _ _).subset hd, rfl⟩
  case filterOne =>
    intro path relation value d hfound
    cases hq : Query.parse path relation value with
    | error e =>
      rw [filterOne, hq] at hfound
      cases hfound
    | ok q =>
      rw [filterOne_eq h hq] at hfound
      exact isOther_of_mem h hr hnone (Query.mem_of_search hfound)
  case filterMany =>
    intro path relation value page perPage shown hshown
    obtain ⟨q, found, hq, hfound, rfl⟩ := select_of_filterMany h hshown
    obtain rfl := Query.select_eq_ok hfound
    rw [hothers]
    refine ⟨fun d hd => isOther_of_mem_shown h hr hnone (fun key hkey => ?_) hd, q, hq, rfl⟩
    exact h.units_subset (List.filter_subset_self _) ((Paging.window_sublist _ _ _ _).subset hkey)
  case filterResourceOne =>
    intro path relation value resource hfound
    cases hq : Query.parse path relation value with
    | error e =>
      rw [filterResourceOne, hq] at hfound
      cases hfound
    | ok q =>
      rw [filterResourceOne_eq s hq] at hfound
      exact isForeign_of_mem_resourcesInOrder h hr hnone (Query.mem_of_search hfound)
  case filterResourceMany =>
    intro path relation value page perPage shown hshown
    cases hq : Query.parse path relation value with
    | error e =>
      rw [filterResourceMany, hq] at hshown
      cases hshown
    | ok q =>
      rw [filterResourceMany_eq s hq] at hshown
      cases hfound : q.select Resource.toJson s.resourcesInOrder with
      | error e =>
        rw [hfound] at hshown
        cases hshown
      | ok found =>
        rw [hfound] at hshown
        obtain rfl := Except.ok.inj hshown
        obtain rfl := Query.select_eq_ok hfound
        rw [hothers]
        refine ⟨fun resource hin => ?_, q, rfl, (h.resources_units.filter _).length_eq⟩
        refine isForeign_of_mem_resourcesInOrder h hr hnone ?_
        exact List.mem_of_mem_filter ((Paging.window_sublist _ _ _ _).subset hin)
  case size => rw [hothers, Table.length_values, size_of_stands h]
  case resourceCount =>
    rw [hothers]
    exact h.size_resources

/-! ## Lifetimes -/

/-- What is stored carries the time to live that was asked for and the time of the call, and expires
accordingly. -/
theorem stamped_of_stores (h : s.tables.Stands m) {c : Operation Device} {id : String}
    {now : Instant} {entry : Device} (hstores : c.Stores id now entry)
    (hput : c.effect s = .put id r) :
    r.ttl = entry.ttl ∧ r.updated = now ∧ Expiry.expiryFor now entry.ttl = .ok r.expires := by
  cases hstores with
  | add =>
    have hresult : (RecordStore.add s now entry).result = _ := (add_simulates h now entry).1
    rw [Operation.effect, hresult] at hput
    rcases DeviceMap.add_cases m now entry with ⟨e, hadd⟩ | ⟨expires, hexpires, -, -, hadd⟩
    · rw [hadd] at hput
      cases hput
    · rw [hadd] at hput
      cases hput
      exact ⟨rfl, rfl, hexpires⟩
  | update =>
    have hresult : (RecordStore.update s now id entry).result = _ :=
      (update_simulates h now id entry).1
    rw [Operation.effect, hresult] at hput
    rcases DeviceMap.update_cases m now id entry with
      ⟨e, hupdate⟩ | ⟨expires, old, hexpires, -, -, hupdate⟩
    · rw [hupdate] at hput
      cases hput
    · rw [hupdate] at hput
      cases hput
      exact ⟨rfl, rfl, hexpires⟩

/-- A device lives from the addition or update that stores it as long as its time to live says. -/
theorem lifetime_of_stores (hs : s.Reachable) {c : Operation Device} {id : String} {now : Instant}
    {entry : Device} {calls : List DeviceCall} (hstores : c.Stores id now entry)
    (hok : c.answer s = .ok (.record r)) (hun : CallStore.Untouched id (c.apply s) calls) :
    CallStore.Lifetime Gone (c.apply s) calls id now entry.ttl r := by
  have hput := hstores.effect_eq hok
  have hs' : (c.apply s).Reachable := hs.call (.record c)
  have hfound : (c.apply s).contents.get? id = some r := by
    have hdata := tracks.records_call hs (.record c)
    rw [show CallStore.effect s (.record c) = .put id r from hput] at hdata
    rw [show (c.apply s).contents = _ from hdata, Effect.apply, Table.get?_insert, if_pos rfl]
  obtain ⟨httl, -, hexpires⟩ := stamped_of_stores hs.stands hstores hput
  have hid : r.id = id := hs'.stands.rows.id_eq_of_contents hfound
  have hr : r.Storable := hs'.stands.rows.storable hfound
  rw [← httl] at hexpires ⊢
  refine tracks.lifetime hs' hfound hexpires (fun hvalid hnone => ?_) hun
  rw [← hid] at hnone
  exact gone_of_get? hvalid hr hnone

end

end DeviceStore

end EdgeCatalog
