import Mathlib
import EdgeCatalog.Proofs.Metrics
import EdgeCatalog.Proofs.Service.Writing

/-! A service store with more on its counters. The counters are only ever added to, and nothing
depends on them: a store on which more was counted answers every call alike, and as much more is on
its counters after the call. -/
namespace EdgeCatalog.ServiceStore

/-- The store with more on its counters. -/
def charge (k : Metrics) (s : ServiceStore) : ServiceStore :=
  { s with metrics := s.metrics + k }

variable (k : Metrics) (s : ServiceStore)

@[simp] theorem tables_charge : (s.charge k).tables = s.tables := rfl

@[simp] theorem maxPerPage_charge : (s.charge k).maxPerPage = s.maxPerPage := rfl

/-! ## Counting -/

theorem charge_reject {α : Type} (e : Error) :
    (s.charge k).reject e = (s.reject e : Step ServiceStore α).onStore (charge k) := by
  simp only [reject, Step.onStore, charge, Metrics.recordRejected_eq, add_right_comm _ k]

theorem charge_miss {α : Type} (id : String) :
    (s.charge k).miss id = (s.miss id : Step ServiceStore α).onStore (charge k) := by
  simp only [miss, Step.onStore, charge, Metrics.recordLookup_eq, add_right_comm _ k]

theorem charge_refuse {α : Type} (e : Error) :
    (s.charge k).refuse e = (s.refuse e : Step ServiceStore α).onStore (charge k) := by
  unfold refuse
  split
  · exact charge_miss k s _
  · exact charge_reject k s e

theorem charge_observe {α : Type} (result : Except Error α) :
    (s.charge k).observe result = (s.observe result).onStore (charge k) := by
  unfold observe
  split
  · simp only [Step.onStore, charge, Metrics.recordInconsistency_eq, add_right_comm _ k]
  · rfl

/-! ## Writing -/

theorem charge_add (now : Instant) (service : Service) :
    (s.charge k).add now service = (s.add now service).onStore (charge k) := by
  rw [add_eq, add_eq, tables_charge]
  cases s.tables.admitted now service with
  | error e => exact charge_reject k s e
  | ok stored => simp only [Step.onStore, charge, Metrics.recordAdd_eq, add_right_comm _ k]

theorem charge_update (now : Instant) (id : String) (service : Service) :
    (s.charge k).update now id service = (s.update now id service).onStore (charge k) := by
  rw [update_eq, update_eq, tables_charge]
  cases s.tables.amended now id service with
  | error e => exact charge_refuse k s e
  | ok stored => simp only [Step.onStore, charge, Metrics.recordUpdate_eq, add_right_comm _ k]

theorem charge_delete (id : String) :
    (s.charge k).delete id = (s.delete id).onStore (charge k) := by
  rw [delete, delete, tables_charge]
  cases s.tables.data.get? id with
  | none => exact charge_miss k s id
  | some stored => simp only [Step.onStore, charge, Metrics.recordDelete_eq, add_right_comm _ k]

theorem charge_cleanExpired (now : Instant) :
    (s.charge k).cleanExpired now = (s.cleanExpired now).onStore (charge k) := by
  have hids : (s.charge k).expiredIds now = s.expiredIds now := rfl
  rw [cleanExpired, cleanExpired, hids, tables_charge]
  by_cases hnone : (s.expiredIds now).isEmpty = true
  · rw [if_pos hnone, if_pos hnone]
    rfl
  · rw [if_neg hnone, if_neg hnone]
    simp only [Swept.onStore, charge, Metrics.recordExpired_eq, add_right_comm _ k]

/-! ## Reading -/

theorem charge_get (id : String) : (s.charge k).get id = (s.get id).onStore (charge k) := by
  simp only [get, Step.onStore, charge, Metrics.recordLookup_eq, add_right_comm _ k]

theorem charge_getMany (page perPage : UInt64) :
    (s.charge k).getMany page perPage = (s.getMany page perPage).onStore (charge k) := by
  have hcount : ({ s.charge k with metrics := (s.charge k).metrics.recordListing } : ServiceStore) =
      ({ s with metrics := s.metrics.recordListing } : ServiceStore).charge k := by
    simp only [charge, Metrics.recordListing_eq, add_right_comm _ k]
  rw [getMany, getMany]
  dsimp only
  rw [hcount, charge_observe]
  rfl

/-- A query is counted before it is put to the registrations. -/
theorem charge_queried :
    ({ s.charge k with metrics := (s.charge k).metrics.recordQuery } : ServiceStore) =
      ({ s with metrics := s.metrics.recordQuery } : ServiceStore).charge k := by
  simp only [charge, Metrics.recordQuery_eq, add_right_comm _ k]

theorem charge_firstMatch (q : Query) (ids : List String) :
    (s.charge k).firstMatch q ids = (s.firstMatch q ids).onStore (charge k) := by
  induction ids with
  | nil => rfl
  | cons id rest ih =>
    rw [firstMatch, firstMatch, tables_charge, charge_observe]
    simp only [Step.onStore]
    split
    · rfl
    · split
      · rfl
      · rfl
      · exact ih

theorem charge_allMatches (q : Query) (ids : List String) :
    (s.charge k).allMatches q ids = (s.allMatches q ids).onStore (charge k) := by
  induction ids with
  | nil => rfl
  | cons id rest ih =>
    rw [allMatches, allMatches, tables_charge, charge_observe]
    simp only [Step.onStore]
    split
    · rfl
    · split
      · rfl
      · rw [ih]
        rfl

theorem charge_filterOne (path relation value : String) :
    (s.charge k).filterOne path relation value =
      (s.filterOne path relation value).onStore (charge k) := by
  rw [filterOne, filterOne]
  cases Query.parse path relation value with
  | error e => rfl
  | ok q =>
    dsimp only
    rw [charge_queried, charge_firstMatch]
    rfl

theorem charge_filterMany (path relation value : String) (page perPage : UInt64) :
    (s.charge k).filterMany path relation value page perPage =
      (s.filterMany path relation value page perPage).onStore (charge k) := by
  rw [filterMany, filterMany]
  cases Query.parse path relation value with
  | error e => rfl
  | ok q =>
    dsimp only
    rw [charge_queried, charge_allMatches]
    rfl

/-! ## Calls -/

theorem unnoticed_charge : Unnoticed (charge k) where
  add := charge_add k
  update := charge_update k
  delete := charge_delete k
  cleanExpired := charge_cleanExpired k
  get := charge_get k
  getMany := charge_getMany k
  filterOne := charge_filterOne k
  filterMany := charge_filterMany k

theorem run_charge (calls : List (Operation Service)) :
    (s.charge k).run calls = (s.run calls).charge k := by
  induction calls generalizing s with
  | nil => rfl
  | cons c rest ih =>
    show (c.apply (s.charge k)).run rest = ((c.apply s).run rest).charge k
    rw [(unnoticed_charge k).apply, ih]

end EdgeCatalog.ServiceStore
