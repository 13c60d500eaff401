import Mathlib
import EdgeCatalog.Proofs.Device.Writing
import EdgeCatalog.Proofs.Metrics

/-! A device store with more on its counters. The counters are only ever added to, and nothing
depends on them: a store on which more was counted answers every call alike, and as much more is on
its counters after the call. -/
namespace EdgeCatalog.DeviceStore

/-- The store with more on its counters. -/
def charge (k : Metrics) (s : DeviceStore) : DeviceStore :=
  { s with metrics := s.metrics + k }

variable (k : Metrics) (s : DeviceStore)

@[simp] theorem tables_charge : (s.charge k).tables = s.tables := rfl

@[simp] theorem maxPerPage_charge : (s.charge k).maxPerPage = s.maxPerPage := rfl

/-! ## Counting -/

theorem charge_reject {α : Type} (e : Error) :
    (s.charge k).reject e = (s.reject e : Step DeviceStore α).onStore (charge k) := by
  simp only [reject, Step.onStore, charge, Metrics.recordRejected_eq, add_right_comm _ k]

theorem charge_miss {α : Type} (id : String) :
    (s.charge k).miss id = (s.miss id : Step DeviceStore α).onStore (charge k) := by
  simp only [miss, Step.onStore, charge, Metrics.recordLookup_eq, add_right_comm _ k]

theorem charge_observe {α : Type} (result : Except Error α) :
    (s.charge k).observe result = (s.observe result).onStore (charge k) := by
  unfold observe
  split
  · simp only [Step.onStore, charge, Metrics.recordInconsistency_eq, add_right_comm _ k]
  · rfl

theorem charge_refuse {α : Type} (e : Error) :
    (s.charge k).refuse e = (s.refuse e : Step DeviceStore α).onStore (charge k) := by
  unfold refuse
  split
  · exact charge_miss k s _
  · exact charge_reject k s e

/-! ## Writing -/

theorem charge_add (now : Instant) (d : Device) :
    (s.charge k).add now d = (s.add now d).onStore (charge k) := by
  rw [add_eq, add_eq, tables_charge]
  cases s.tables.admitted now d with
  | error e => exact charge_reject k s e
  | ok stored => simp only [Step.onStore, charge, Metrics.recordAdd_eq, add_right_comm _ k]

theorem charge_update (now : Instant) (id : String) (d : Device) :
    (s.charge k).update now id d = (s.update now id d).onStore (charge k) := by
  rw [update_eq, update_eq, tables_charge]
  cases s.tables.amended now id d with
  | error e => exact charge_refuse k s e
  | ok stored => simp only [Step.onStore, charge, Metrics.recordUpdate_eq, add_right_comm _ k]

theorem charge_delete (id : String) :
    (s.charge k).delete id = (s.delete id).onStore (charge k) := by
  rw [delete, delete, tables_charge]
  cases s.tables.remove id with
  | none => exact charge_miss k s id
  | some removed => simp only [Step.onStore, charge, Metrics.recordDelete_eq, add_right_comm _ k]

theorem charge_cleanExpired (now : Instant) :
    (s.charge k).cleanExpired now = (s.cleanExpired now).onStore (charge k) := by
  have hids : (s.charge k).expiredIds now = s.expiredIds now := rfl
  rw [cleanExpired, cleanExpired, hids, tables_charge]
  by_cases hnone : (s.expiredIds now).isEmpty = true
  · rw [if_pos hnone, if_pos hnone]
    rfl
  · rw [if_neg hnone, if_neg hnone]
    simp only [Swept.onStore, charge, Metrics.recordExpired_eq, add_right_comm _ k]

/-! ## Reading -/

theorem charge_get (id : String) : (s.charge k).get id = (s.get id).onStore (charge k) := by
  rw [get, get, ← charge_observe]
  simp only [charge, Metrics.recordLookup_eq, add_right_comm _ k]

theorem charge_page (devices : Except Error (List Device)) (total : Nat) :
    (s.charge k).page devices total = (s.page devices total).onStore (charge k) := by
  rw [page, page, charge_observe]
  rfl

theorem charge_getMany (page perPage : UInt64) :
    (s.charge k).getMany page perPage = (s.getMany page perPage).onStore (charge k) := by
  rw [getMany, getMany]
  dsimp only
  rw [← charge_page]
  simp only [charge, Metrics.recordListing_eq, add_right_comm _ k]

/-- A query is counted before it is put to the devices. -/
theorem charge_queried :
    ({ s.charge k with metrics := (s.charge k).metrics.recordQuery } : DeviceStore) =
      ({ s with metrics := s.metrics.recordQuery } : DeviceStore).charge k := by
  simp only [charge, Metrics.recordQuery_eq, add_right_comm _ k]

theorem charge_firstMatch (q : Query) (ids : List String) :
    (s.charge k).firstMatch q ids = (s.firstMatch q ids).onStore (charge k) := by
  induction ids generalizing s with
  | nil => rfl
  | cons id rest ih =>
    rw [firstMatch, firstMatch, tables_charge, charge_observe]
    simp only [Step.onStore]
    split
    · rw [ih]
      rfl
    · split
      · rfl
      · rfl
      · exact ih s

theorem charge_allMatches (q : Query) (ids : List String) :
    (s.charge k).allMatches q ids = (s.allMatches q ids).onStore (charge k) := by
  induction ids generalizing s with
  | nil => rfl
  | cons id rest ih =>
    rw [allMatches, allMatches, tables_charge, charge_observe]
    simp only [Step.onStore]
    split
    · rw [ih]
      rfl
    · split
      · rfl
      · rw [ih]
        rfl

theorem charge_filterOne (path relation value : String) :
    (s.charge k).filterOne path relation value =
      (s.filterOne path relation value).onStore (charge k) := by
  rw [filterOne, filterOne]
  cases Query.parse path relation value with
  | error e => rfl
  | ok q =>
    dsimp only
    rw [charge_queried, charge_firstMatch]
    rfl

theorem charge_filterMany (path relation value : String) (page perPage : UInt64) :
    (s.charge k).filterMany path relation value page perPage =
      (s.filterMany path relation value page perPage).onStore (charge k) := by
  rw [filterMany, filterMany]
  cases Query.parse path relation value with
  | error e => rfl
  | ok q =>
    dsimp only
    rw [charge_queried, charge_allMatches, tables_charge, maxPerPage_charge]
    simp only [Step.onStore]
    cases (({ s with metrics := s.metrics.recordQuery } : DeviceStore).allMatches q
      s.tables.index.keys).result with
    | error e => rfl
    | ok found =>
      dsimp only
      rw [charge_page]
      rfl

/-! ## Resources -/

theorem charge_getResource (id : String) :
    (s.charge k).getResource id = (s.getResource id).onStore (charge k) := by
  simp only [getResource, Step.onStore, charge, Metrics.recordLookup_eq, add_right_comm _ k]

theorem charge_filterResourceOne (path relation value : String) :
    (s.charge k).filterResourceOne path relation value =
      (s.filterResourceOne path relation value).onStore (charge k) := by
  rw [filterResourceOne, filterResourceOne]
  cases Query.parse path relation value with
  | error e => rfl
  | ok q =>
    dsimp only
    rw [charge_queried]
    rfl

theorem charge_filterResourceMany (path relation value : String) (page perPage : UInt64) :
    (s.charge k).filterResourceMany path relation value page perPage =
      (s.filterResourceMany path relation value page perPage).onStore (charge k) := by
  rw [filterResourceMany, filterResourceMany]
  cases Query.parse path relation value with
  | error e => rfl
  | ok q =>
    dsimp only
    rw [charge_queried]
    rfl

theorem charge_devicesFromResources (resources : List Resource) :
    (s.charge k).devicesFromResources resources =
      (s.devicesFromResources resources).onStore (charge k) := by
  have howner : (s.charge k).withStoredOwner = s.withStoredOwner := rfl
  rw [devicesFromResources, devicesFromResources, howner, tables_charge]
  cases resources.mapM s.withStoredOwner with
  | error e => rfl
  | ok units => exact charge_observe k s _

/-! ## Calls -/

theorem unnoticed_charge : Unnoticed (charge k) where
  add := charge_add k
  update := charge_update k
  delete := charge_delete k
  cleanExpired := charge_cleanExpired k
  get := charge_get k
  getMany := charge_getMany k
  filterOne := charge_filterOne k
  filterMany := charge_filterMany k

theorem answer_charge (c : DeviceCall) : (s.charge k).answer c = s.answer c := by
  cases c with
  | record operation => rw [answer, (unnoticed_charge k).answer]; rfl
  | resource command =>
    cases command with
    | get id => rw [answer, charge_getResource]; rfl
    | filterOne path relation value => rw [answer, charge_filterResourceOne]; rfl
    | filterMany path relation value page perPage => rw [answer, charge_filterResourceMany]; rfl
    | devices resources => rw [answer, charge_devicesFromResources]; rfl

theorem call_charge (c : DeviceCall) : (s.charge k).call c = (s.call c).charge k := by
  cases c with
  | record operation => exact (unnoticed_charge k).apply s operation
  | resource command =>
    cases command with
    | get id => rw [call, charge_getResource]; rfl
    | filterOne path relation value => rw [call, charge_filterResourceOne]; rfl
    | filterMany path relation value page perPage => rw [call, charge_filterResourceMany]; rfl
    | devices resources => rw [call, charge_devicesFromResources]; rfl

theorem run_charge (calls : List DeviceCall) : (s.charge k).run calls = (s.run calls).charge k := by
  induction calls generalizing s with
  | nil => rfl
  | cons c rest ih =>
    show ((s.charge k).call c).run rest = ((s.call c).run rest).charge k
    rw [call_charge, ih]

end EdgeCatalog.DeviceStore
