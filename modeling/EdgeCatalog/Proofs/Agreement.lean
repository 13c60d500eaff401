import Mathlib
import EdgeCatalog.Proofs.Device.Reading
import EdgeCatalog.Proofs.Device.Writing
import EdgeCatalog.Proofs.Service.Reading
import EdgeCatalog.Proofs.Service.Writing

/-! The tables of a store never disagree. Every place where a disagreement would be noticed is dead:
rows that are looked up are found, whether the key comes from an index, from another row or from a
caller. So no call tells of one, no filter passes over a device, and none is ever counted. -/
namespace EdgeCatalog

/-- The result does not tell of tables that disagree. -/
def Agreed {α : Type} (result : Except Error α) : Prop :=
  ∀ cause, result ≠ .error (.inconsistent cause)

section

variable {α β : Type} {result : Except Error α}

theorem agreed_ok (value : α) : Agreed (.ok value) :=
  fun _ h => by cases h

theorem agreed_missing (cause : Missing) : Agreed (.error (.missing cause) : Except Error α) :=
  fun _ h => by cases h

theorem agreed_invalid (cause : Invalid) : Agreed (.error (.invalid cause) : Except Error α) :=
  fun _ h => by cases h

theorem Agreed.map (h : Agreed result) (f : α → β) : Agreed (result.map f) :=
  fun cause hmap => h cause (error_of_map hmap)

theorem agreed_parse {path relation value : String} {e : Error}
    (h : Query.parse path relation value = .error e) : Agreed (.error e : Except Error α) := by
  rw [Query.parse_error h]
  exact agreed_invalid _

theorem agreed_select {q : Query} {tree : α → Json} (records : List α) :
    Agreed (q.select tree records) := by
  intro cause h
  obtain ⟨fault, he⟩ := Query.select_error h
  cases he

/-- A search fails because of the query, or because nothing matches. -/
theorem agreed_search {q : Query} {tree : α → Json} (records : List α) (cause : Missing) :
    Agreed (q.search tree records cause) := by
  intro disagreement h
  cases Query.search_eq_iff.mp h with
  | fault _ _ hfault =>
    obtain ⟨fault, he⟩ := Query.eval_error hfault
    cases he

end

/-! ## Calm stores -/

section

variable {σ ε α : Type} [RecordStore σ ε] {s : σ}

/-- How many disagreements have been counted. -/
def disagreements (s : σ) : UInt64 :=
  (RecordStore.metrics s).inconsistencies

/-- A step that neither tells of tables that disagree nor counts it. -/
structure CalmStep (s : σ) (step : Step σ α) : Prop where
  agreed : Agreed step.result
  uncounted : disagreements step.store = disagreements s

/-- Whatever all stores share can be called without noticing a disagreement. -/
structure Calm (s : σ) : Prop where
  add : ∀ now entry, CalmStep s (RecordStore.add s now entry)
  update : ∀ now id entry, CalmStep s (RecordStore.update s now id entry)
  delete : ∀ id, CalmStep s (RecordStore.delete s id)
  cleanExpired : ∀ now, disagreements (RecordStore.cleanExpired s now).store = disagreements s
  get : ∀ id, CalmStep s (RecordStore.get s id)
  getMany : ∀ page perPage, CalmStep s (RecordStore.getMany s page perPage)
  filterOne : ∀ path relation value, CalmStep s (RecordStore.filterOne s path relation value)
  filterMany : ∀ path relation value page perPage,
    CalmStep s (RecordStore.filterMany s path relation value page perPage)

theorem Calm.answer (h : Calm s) (c : Operation ε) : Agreed (c.answer s) := by
  cases c with
  | add now entry => exact (h.add now entry).agreed.map _
  | update now id entry => exact (h.update now id entry).agreed.map _
  | delete id => exact (h.delete id).agreed.map _
  | cleanExpired now => exact agreed_ok _
  | get id => exact (h.get id).agreed.map _
  | getMany page perPage => exact (h.getMany page perPage).agreed.map _
  | filterOne path relation value => exact (h.filterOne path relation value).agreed.map _
  | filterMany path relation value page perPage =>
    exact (h.filterMany path relation value page perPage).agreed.map _

theorem Calm.apply (h : Calm s) (c : Operation ε) :
    disagreements (c.apply s) = disagreements s := by
  cases c with
  | add now entry => exact (h.add now entry).uncounted
  | update now id entry => exact (h.update now id entry).uncounted
  | delete id => exact (h.delete id).uncounted
  | cleanExpired now => exact h.cleanExpired now
  | get id => exact (h.get id).uncounted
  | getMany page perPage => exact (h.getMany page perPage).uncounted
  | filterOne path relation value => exact (h.filterOne path relation value).uncounted
  | filterMany path relation value page perPage =>
    exact (h.filterMany path relation value page perPage).uncounted

end

/-! ## Devices -/

namespace DeviceMap

/-- No id is refused for belonging to another device: the check of the id comes first. -/
theorem fault?_ne_taken {owner : String} {earlier ids : List String} (id other : String) :
    fault? owner earlier ids ≠ some (.resourceTaken id other) := by
  induction ids generalizing earlier with
  | nil => exact fun h => by cases h
  | cons rid rest ih =>
    rw [fault?]
    split
    · exact fun h => by cases h
    · split
      · exact fun h => by cases h
      · exact ih

theorem firstFault_ne_taken {owner : String} {ids : List String} (h : ¬OwnIds owner ids)
    (id other : String) : firstFault owner ids h ≠ .resourceTaken id other := by
  intro hfault
  have hfirst : fault? owner [] ids = some (.resourceTaken id other) := by
    rw [← hfault, firstFault, Option.some_get]
  exact fault?_ne_taken id other hfirst

end DeviceMap

namespace DeviceStore

open DeviceTables (Stands unitCount)

variable {s : DeviceStore} {m : Table Device}

theorem calm_add (s : DeviceStore) (now : Instant) (d : Device) : CalmStep s (s.add now d) := by
  rw [add_eq]
  cases hadmitted : s.tables.admitted now d with
  | error e =>
    obtain ⟨cause, rfl⟩ := DeviceTables.admitted_error hadmitted
    exact ⟨agreed_invalid cause, rfl⟩
  | ok stored => exact ⟨agreed_ok stored, rfl⟩

theorem calm_update (s : DeviceStore) (now : Instant) (id : String) (d : Device) :
    CalmStep s (s.update now id d) := by
  rw [update_eq]
  cases hamend : s.tables.amended now id d with
  | error e =>
    rcases DeviceTables.amended_error hamend with ⟨cause, rfl⟩ | rfl
    · exact ⟨agreed_invalid cause, rfl⟩
    · exact ⟨agreed_missing _, rfl⟩
  | ok stored => exact ⟨agreed_ok stored, rfl⟩

theorem calm_delete (s : DeviceStore) (id : String) : CalmStep s (s.delete id) := by
  rw [delete]
  cases s.tables.remove id with
  | none => exact ⟨agreed_missing _, rfl⟩
  | some removed => exact ⟨agreed_ok _, rfl⟩

theorem calm_get (h : s.tables.Stands m) (id : String) : CalmStep s (s.get id) := by
  rw [get_eq h, DeviceMap.get]
  cases m.get? id with
  | none => exact ⟨agreed_missing _, rfl⟩
  | some d => exact ⟨agreed_ok d, rfl⟩

theorem calm_filterOne (h : s.tables.Stands m) (path relation value : String) :
    CalmStep s (s.filterOne path relation value) := by
  cases hq : Query.parse path relation value with
  | error e =>
    rw [filterOne, hq]
    exact ⟨agreed_parse hq, rfl⟩
  | ok q =>
    rw [filterOne_eq h hq]
    exact ⟨agreed_search m.values _, rfl⟩

theorem calm_filterMany (h : s.tables.Stands m) (path relation value : String)
    (page perPage : UInt64) : CalmStep s (s.filterMany path relation value page perPage) := by
  cases hq : Query.parse path relation value with
  | error e =>
    rw [filterMany, hq]
    exact ⟨agreed_parse hq, rfl⟩
  | ok q =>
    rw [filterMany_eq h hq]
    exact ⟨(agreed_select m.values).map _, rfl⟩

theorem calm_of_stands (h : s.tables.Stands m) : Calm s where
  add := calm_add s
  update := calm_update s
  delete := calm_delete s
  cleanExpired now := by
    show disagreements (s.cleanExpired now).store = _
    rw [cleanExpired]
    split <;> rfl
  get := calm_get h
  getMany page perPage := by
    show CalmStep s (s.getMany page perPage)
    rw [getMany_eq h]
    exact ⟨agreed_ok _, rfl⟩
  filterOne := calm_filterOne h
  filterMany := calm_filterMany h

/-! ### Resources -/

theorem calm_getResource (h : s.tables.Stands m) (id : String) : CalmStep s (s.getResource id) := by
  rw [getResource_eq h, DeviceMap.getResource]
  cases (DeviceMap.resources m).find? (·.id = id) with
  | none => exact ⟨agreed_missing _, rfl⟩
  | some r => exact ⟨agreed_ok r, rfl⟩

theorem calm_filterResourceOne (s : DeviceStore) (path relation value : String) :
    CalmStep s (s.filterResourceOne path relation value) := by
  cases hq : Query.parse path relation value with
  | error e =>
    rw [filterResourceOne, hq]
    exact ⟨agreed_parse hq, rfl⟩
  | ok q =>
    rw [filterResourceOne_eq s hq]
    exact ⟨agreed_search s.resourcesInOrder _, rfl⟩

theorem calm_filterResourceMany (s : DeviceStore) (path relation value : String)
    (page perPage : UInt64) :
    CalmStep s (s.filterResourceMany path relation value page perPage) := by
  cases hq : Query.parse path relation value with
  | error e =>
    rw [filterResourceMany, hq]
    exact ⟨agreed_parse hq, rfl⟩
  | ok q =>
    rw [filterResourceMany_eq s hq]
    exact ⟨(agreed_select s.resourcesInOrder).map _, rfl⟩

/-- Resources that a caller brings may be unknown, but the owner of a known one is stored. -/
theorem calm_devicesFromResources (h : s.tables.Stands m) (resources : List Resource) :
    CalmStep s (s.devicesFromResources resources) := by
  rw [devicesFromResources_eq h]
  refine ⟨Agreed.map (fun cause hunits => ?_) _, rfl⟩
  obtain ⟨r, -, hr⟩ := exists_of_mapM_error hunits
  cases withStoredOwner_error hr

/-! ### Calls -/

theorem agreed_answer (h : s.tables.Stands m) (c : DeviceCall) : Agreed (s.answer c) := by
  cases c with
  | record operation => exact ((calm_of_stands h).answer operation).map _
  | resource command =>
    cases command with
    | get id => exact (calm_getResource h id).agreed.map _
    | filterOne path relation value => exact (calm_filterResourceOne s path relation value).agreed.map _
    | filterMany path relation value page perPage =>
      exact (calm_filterResourceMany s path relation value page perPage).agreed.map _
    | devices resources => exact (calm_devicesFromResources h resources).agreed.map _

theorem disagreements_call (h : s.tables.Stands m) (c : DeviceCall) :
    disagreements (s.call c) = disagreements s := by
  cases c with
  | record operation => exact (calm_of_stands h).apply operation
  | resource command =>
    cases command with
    | get id => exact (calm_getResource h id).uncounted
    | filterOne path relation value => exact (calm_filterResourceOne s path relation value).uncounted
    | filterMany path relation value page perPage =>
      exact (calm_filterResourceMany s path relation value page perPage).uncounted
    | devices resources => exact (calm_devicesFromResources h resources).uncounted

theorem disagreements_run (h : s.tables.Stands m) (calls : List DeviceCall) :
    disagreements (s.run calls) = disagreements s := by
  induction calls generalizing s m with
  | nil => rfl
  | cons c rest ih =>
    show disagreements ((s.call c).run rest) = _
    rw [ih (stands_call h c), disagreements_call h c]

theorem add_ne_taken (h : s.tables.Stands m) (now : Instant) (d : Device) (id owner : String) :
    (s.add now d).result ≠ .error (.invalid (.resourceTaken id owner)) := by
  rw [(add_simulates h now d).1, DeviceMap.add]
  intro htaken
  split at htaken
  · split at htaken
    · cases htaken
    · split at htaken
      · cases htaken
      · split at htaken
        · cases htaken
        · injection htaken with hfault
          injection hfault with hfault
          exact DeviceMap.firstFault_ne_taken _ id owner hfault
  · cases htaken

theorem update_ne_taken (h : s.tables.Stands m) (now : Instant) (target : String) (d : Device)
    (id owner : String) :
    (s.update now target d).result ≠ .error (.invalid (.resourceTaken id owner)) := by
  rw [(update_simulates h now target d).1, DeviceMap.update]
  intro htaken
  split at htaken
  · cases htaken
  · split at htaken
    · cases htaken
    · split at htaken
      · cases htaken
      · injection htaken with hfault
        injection hfault with hfault
        exact DeviceMap.firstFault_ne_taken _ id owner hfault

/-- A filter passes over no device. -/
structure SeesAll (s : DeviceStore) : Prop where
  /-- What the index leads to can be read back. -/
  assembled : ∀ id ∈ s.tables.index.keys, ∃ d, s.tables.assemble id = .ok d
  /-- The index leads to every device. -/
  indexed : ∀ id d, (s.get id).result = .ok d → id ∈ s.tables.index.keys
  /-- A search that fails for want of a match has been put to every device. -/
  searched : ∀ path relation value q cause, Query.parse path relation value = .ok q →
    (s.filterOne path relation value).result = .error (.missing cause) →
    ∀ id d, (s.get id).result = .ok d → q.eval d.toJson = .ok false
  /-- A search that finds a device has been put to every device before it. -/
  foremost : ∀ path relation value q found, Query.parse path relation value = .ok q →
    (s.filterOne path relation value).result = .ok found →
    ∀ id d, (s.get id).result = .ok d → d.id < found.id → q.eval d.toJson = .ok false
  /-- A selection counts every device that matches. -/
  selected : ∀ path relation value q page perPage shown, Query.parse path relation value = .ok q →
    (s.filterMany path relation value page perPage).result = .ok shown →
    shown.total = unitCount (s.contents.values.filter fun d => q.hits d.toJson)

theorem seesAll_of_stands (h : s.tables.Stands s.contents) : s.SeesAll where
  assembled id hid := by
    rw [h.index_eq, Table.mem_keys_iff, Table.contains_iff] at hid
    obtain ⟨d, hd⟩ := hid
    refine ⟨d, ?_⟩
    rw [h.rows.assemble, h.contents, hd]
  indexed id d hget := by
    rw [result_get_eq_ok_iff h] at hget
    rw [h.index_eq]
    exact Table.mem_keys_of_get? hget
  searched path relation value q cause hq hmissing id d hget := by
    rw [filterOne_eq h hq] at hmissing
    rw [result_get_eq_ok_iff h] at hget
    cases Query.search_eq_iff.mp hmissing with
    | fault _ _ hfault =>
      obtain ⟨fault, he⟩ := Query.eval_error hfault
      cases he
    | nothing hmiss => exact hmiss d (Table.mem_values_iff.mpr ⟨id, hget⟩)
  foremost path relation value q found hq hfound id d hget hbefore := by
    rw [filterOne_eq h hq] at hfound
    rw [result_get_eq_ok_iff h] at hget
    cases Query.search_eq_iff.mp hfound with
    | hit hvalues hmissed _ =>
      have hids := h.pairwise_ids
      have hin : d ∈ s.contents.values := Table.mem_values_iff.mpr ⟨id, hget⟩
      rw [hvalues] at hids hin
      rcases List.mem_append.mp hin with hin | hin
      · exact hmissed d hin
      · -- what is found comes before the devices that follow it
        rcases List.mem_cons.mp hin with rfl | hin
        · exact absurd hbefore (lt_irrefl d.id)
        · have hafter := (List.pairwise_cons.mp (List.pairwise_append.mp hids).2.1).1 d hin
          exact absurd hbefore (lt_asymm hafter)
  selected path relation value q page perPage shown hq hshown := by
    obtain ⟨q', found, hq', hfound, rfl⟩ := select_of_filterMany h hshown
    obtain rfl := Except.ok.inj (hq.symm.trans hq')
    rw [Query.select_eq_ok hfound]

end DeviceStore

/-! ## Registrations -/

namespace ServiceStore

open ServiceTables (Stands)

variable {s : ServiceStore} {m : Table Service}

theorem calm_add (s : ServiceStore) (now : Instant) (service : Service) :
    CalmStep s (s.add now service) := by
  rw [add_eq]
  cases hadmitted : s.tables.admitted now service with
  | error e =>
    obtain ⟨cause, rfl⟩ := ServiceTables.admitted_error hadmitted
    exact ⟨agreed_invalid cause, rfl⟩
  | ok stored => exact ⟨agreed_ok stored, rfl⟩

theorem calm_update (s : ServiceStore) (now : Instant) (id : String) (service : Service) :
    CalmStep s (s.update now id service) := by
  rw [update_eq]
  cases hamend : s.tables.amended now id service with
  | error e =>
    rcases ServiceTables.amended_error hamend with ⟨cause, rfl⟩ | rfl
    · exact ⟨agreed_invalid cause, rfl⟩
    · exact ⟨agreed_missing _, rfl⟩
  | ok stored => exact ⟨agreed_ok stored, rfl⟩

theorem calm_delete (s : ServiceStore) (id : String) : CalmStep s (s.delete id) := by
  rw [delete]
  cases s.tables.data.get? id with
  | none => exact ⟨agreed_missing _, rfl⟩
  | some service => exact ⟨agreed_ok service, rfl⟩

theorem calm_get (h : s.tables.Stands m) (id : String) : CalmStep s (s.get id) := by
  rw [get_eq h, ServiceMap.get]
  cases m.get? id with
  | none => exact ⟨agreed_missing _, rfl⟩
  | some service => exact ⟨agreed_ok service, rfl⟩

theorem calm_filterOne (h : s.tables.Stands m) (path relation value : String) :
    CalmStep s (s.filterOne path relation value) := by
  cases hq : Query.parse path relation value with
  | error e =>
    rw [filterOne, hq]
    exact ⟨agreed_parse hq, rfl⟩
  | ok q =>
    rw [filterOne_eq h hq]
    exact ⟨agreed_search m.values _, rfl⟩

theorem calm_filterMany (h : s.tables.Stands m) (path relation value : String)
    (page perPage : UInt64) : CalmStep s (s.filterMany path relation value page perPage) := by
  cases hq : Query.parse path relation value with
  | error e =>
    rw [filterMany, hq]
    exact ⟨agreed_parse hq, rfl⟩
  | ok q =>
    rw [filterMany_eq h hq]
    exact ⟨(agreed_select m.values).map _, rfl⟩

theorem calm_of_stands (h : s.tables.Stands m) : Calm s where
  add := calm_add s
  update := calm_update s
  delete := calm_delete s
  cleanExpired now := by
    show disagreements (s.cleanExpired now).store = _
    rw [cleanExpired]
    split <;> rfl
  get := calm_get h
  getMany page perPage := by
    show CalmStep s (s.getMany page perPage)
    rw [getMany_eq h]
    exact ⟨agreed_ok _, rfl⟩
  filterOne := calm_filterOne h
  filterMany := calm_filterMany h

theorem disagreements_run (h : s.tables.Stands m) (calls : List (Operation Service)) :
    disagreements (s.run calls) = disagreements s := by
  induction calls generalizing s m with
  | nil => rfl
  | cons c rest ih =>
    show disagreements ((c.apply s).run rest) = _
    rw [ih (stands_call h c), (calm_of_stands h).apply c]

end ServiceStore

/-- Whatever has been called on an empty store, no call of it tells of tables that disagree, and none
has been counted. No resource is ever refused for belonging to another device, a filter passes over
no device, and every registration that the index leads to is found. -/
theorem never_disagree (maxPerPage : UInt64) :
    (∀ calls : List DeviceCall, let s := DeviceStore.run { maxPerPage } calls
      (∀ c, Agreed (s.answer c)) ∧ s.SeesAll ∧ s.metrics.inconsistencies = 0 ∧
        (∀ now d id owner, (s.add now d).result ≠ .error (.invalid (.resourceTaken id owner))) ∧
        (∀ now target d id owner,
          (s.update now target d).result ≠ .error (.invalid (.resourceTaken id owner)))) ∧
    (∀ calls : List (Operation Service), let s := ServiceStore.run { maxPerPage } calls
      (∀ c : Operation Service, Agreed (c.answer s)) ∧
        (∀ id ∈ s.tables.index.keys, ∃ service, s.tables.entry id = .ok service) ∧
        s.metrics.inconsistencies = 0) := by
  constructor
  · intro calls
    have hs := DeviceStore.Reachable.stands ⟨maxPerPage, calls, rfl⟩
    exact ⟨DeviceStore.agreed_answer hs, DeviceStore.seesAll_of_stands hs,
      DeviceStore.disagreements_run (s := { maxPerPage }) DeviceTables.Stands.empty calls,
      DeviceStore.add_ne_taken hs, DeviceStore.update_ne_taken hs⟩
  · intro calls
    have hs := ServiceStore.Reachable.stands ⟨maxPerPage, calls, rfl⟩
    refine ⟨(ServiceStore.calm_of_stands hs).answer, fun id hid => ?_,
      ServiceStore.disagreements_run (s := { maxPerPage }) ServiceTables.Stands.empty calls⟩
    rw [hs.index_eq, Table.mem_keys_iff, Table.contains_iff] at hid
    obtain ⟨service, hservice⟩ := hid
    refine ⟨service, ?_⟩
    rw [ServiceTables.entry, hservice]

end EdgeCatalog
