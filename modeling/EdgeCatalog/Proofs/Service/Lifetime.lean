import Mathlib
import EdgeCatalog.Proofs.Service.Reading
import EdgeCatalog.Proofs.Store.Effect

/-! Lifetimes of registrations. Every call changes the rows by its effect, so a registration that no
call touches is kept until a sweep finds it expired, and then nothing is left of it. -/
namespace EdgeCatalog

instance : CallStore ServiceStore (Operation Service) Service where
  call s c := c.apply s
  shared? := some

namespace ServiceStore

open ServiceTables (Stands)

variable {s : ServiceStore} {m : Table Service}

/-- What a call does to the map is its effect. -/
theorem call_eq_effect (h : s.tables.Stands m) (c : Operation Service) :
    ServiceMap.call m c = Effect.apply m (c.effect s) := by
  cases c with
  | add now service =>
    have hresult : (RecordStore.add s now service).result = _ := (add_simulates h now service).1
    rw [Operation.effect, ServiceMap.call, hresult]
    rcases ServiceMap.add_cases m now service with ⟨e, hadd⟩ | ⟨expires, -, hadd⟩
    · rw [hadd]
      rfl
    · rw [hadd]
      rfl
  | update now id service =>
    have hresult : (RecordStore.update s now id service).result = _ :=
      (update_simulates h now id service).1
    rw [Operation.effect, ServiceMap.call, hresult]
    rcases ServiceMap.update_cases m now id service with ⟨e, hupdate⟩ | ⟨expires, old, -, -, hupdate⟩
    · rw [hupdate]
      rfl
    · rw [hupdate]
      rfl
  | delete id =>
    have hresult : (RecordStore.delete s id).result = _ := (delete_simulates h id).1
    rw [Operation.effect, ServiceMap.call, hresult]
    rcases ServiceMap.delete_cases m id with ⟨e, hdelete⟩ | ⟨service, -, hdelete⟩
    · rw [hdelete]
      rfl
    · rw [hdelete]
      rfl
  | cleanExpired now =>
    have hkeep : (fun service : Service => !service.isExpired now) = survives [now] :=
      funext fun service => (survives_singleton now service).symm
    rw [Operation.effect, ServiceMap.call, Effect.apply, ServiceMap.cleanExpired, hkeep]
  | get id => rfl
  | getMany page perPage => rfl
  | filterOne path relation value => rfl
  | filterMany path relation value page perPage => rfl

theorem tracks : CallStore.Tracks Reachable fun s => s.tables.data where
  valid_call hs c := hs.call c
  records_call hs c := (stands_call hs.stands c).data.trans (call_eq_effect hs.stands c)
  get {s} hs id r := by
    have hget : (RecordStore.get s id).result = _ := congrArg (·.result) (get_eq hs.stands id)
    rw [hget, ServiceMap.get_eq_ok_iff]

/-! ## What is gone -/

/-- The registrations under other ids. -/
def others (s : ServiceStore) (id : String) : List Service :=
  s.tables.data.values.filter (·.id ≠ id)

/-- Nothing is left of a registration: it is not found, not listed and not counted. -/
structure Gone (s : ServiceStore) (r : Service) : Prop where
  get : (s.get r.id).result = .error (.missing (.entry r.id))
  getMany : ∀ page perPage shown, (s.getMany page perPage).result = .ok shown →
    (∀ service ∈ shown.items, service.id ≠ r.id) ∧ shown.total = (s.others r.id).length
  filterOne : ∀ path relation value service,
    (s.filterOne path relation value).result = .ok service → service.id ≠ r.id
  filterMany : ∀ path relation value page perPage shown,
    (s.filterMany path relation value page perPage).result = .ok shown →
    (∀ service ∈ shown.items, service.id ≠ r.id) ∧
      ∃ q, Query.parse path relation value = .ok q ∧
        shown.total = ((s.others r.id).filter fun service => q.hits service.toJson).length
  size : s.size = (s.others r.id).length

theorem gone_of_get? (hs : s.Reachable) {r : Service} (hnone : s.tables.data.get? r.id = none) :
    s.Gone r := by
  have h := hs.stands
  have hne : ∀ service ∈ s.tables.data.values, service.id ≠ r.id := by
    intro service hin hsame
    obtain ⟨id, hfound⟩ := Table.mem_values_iff.mp hin
    obtain rfl := h.id_eq hfound
    rw [hsame, hnone] at hfound
    cases hfound
  have hothers : s.others r.id = s.tables.data.values :=
    List.filter_eq_self.mpr fun service hin => decide_eq_true (hne service hin)
  constructor
  case get => rw [get_eq h, ServiceMap.get, hnone]
  case getMany =>
    intro page perPage shown hshown
    rw [getMany_eq h] at hshown
    obtain rfl := Except.ok.inj hshown
    rw [hothers, Table.length_values]
    exact ⟨fun service hin => hne service ((Paging.window_sublist _ _ _ _).subset hin), rfl⟩
  case filterOne =>
    intro path relation value service hfound
    cases hq : Query.parse path relation value with
    | error e =>
      rw [filterOne, hq] at hfound
      cases hfound
    | ok q =>
      rw [filterOne_eq h hq] at hfound
      exact hne service (Query.mem_of_search hfound)
  case filterMany =>
    intro path relation value page perPage shown hshown
    obtain ⟨q, found, hq, hfound, rfl⟩ := select_of_filterMany h hshown
    obtain rfl := Query.select_eq_ok hfound
    rw [hothers]
    refine ⟨fun service hin => hne service ?_, q, hq, rfl⟩
    exact List.mem_of_mem_filter ((Paging.window_sublist _ _ _ _).subset hin)
  case size => rw [hothers, Table.length_values]; rfl

/-- What is stored carries the time to live that was asked for and the time of the call, and expires
accordingly. -/
theorem stamped_of_stores (h : s.tables.Stands m) {c : Operation Service} {id : String}
    {now : Instant} {entry r : Service} (hstores : c.Stores id now entry)
    (hput : c.effect s = .put id r) :
    r.ttl = entry.ttl ∧ r.updated = now ∧ Expiry.expiryFor now entry.ttl = .ok r.expires := by
  cases hstores with
  | add =>
    have hresult : (RecordStore.add s now entry).result = _ := (add_simulates h now entry).1
    rw [Operation.effect, hresult] at hput
    rcases ServiceMap.add_cases m now entry with ⟨e, hadd⟩ | ⟨expires, hexpires, hadd⟩
    · rw [hadd] at hput
      cases hput
    · rw [hadd] at hput
      cases hput
      exact ⟨rfl, rfl, hexpires⟩
  | update =>
    have hresult : (RecordStore.update s now id entry).result = _ :=
      (update_simulates h now id entry).1
    rw [Operation.effect, hresult] at hput
    rcases ServiceMap.update_cases m now id entry with
      ⟨e, hupdate⟩ | ⟨expires, old, hexpires, -, hupdate⟩
    · rw [hupdate] at hput
      cases hput
    · rw [hupdate] at hput
      cases hput
      exact ⟨rfl, rfl, hexpires⟩

/-- A registration lives from the addition or update that stores it as long as its time to live
says. -/
theorem lifetime_of_stores (hs : s.Reachable) {c : Operation Service} {id : String} {now : Instant}
    {entry r : Service} {calls : List (Operation Service)} (hstores : c.Stores id now entry)
    (hok : c.answer s = .ok (.record r)) (hun : CallStore.Untouched id (c.apply s) calls) :
    CallStore.Lifetime Gone (c.apply s) calls id now entry.ttl r := by
  have hput := hstores.effect_eq hok
  have hfound : (c.apply s).tables.data.get? id = some r := by
    have hdata := tracks.records_call hs c
    rw [show CallStore.effect s c = .put id r from hput] at hdata
    rw [show (c.apply s).tables.data = _ from hdata, Effect.apply, Table.get?_insert, if_pos rfl]
  obtain ⟨httl, -, hexpires⟩ := stamped_of_stores hs.stands hstores hput
  have hid : r.id = id := (hs.call c).stands.id_eq hfound
  rw [← httl] at hexpires ⊢
  refine tracks.lifetime (hs.call c) hfound hexpires (fun hvalid hnone => ?_) hun
  rw [← hid] at hnone
  exact gone_of_get? hvalid hnone

end ServiceStore

end EdgeCatalog
