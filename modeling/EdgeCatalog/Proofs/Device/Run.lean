import Mathlib
import EdgeCatalog.Session
import EdgeCatalog.Proofs.Device.Simulation
import EdgeCatalog.Proofs.Store.Operation

/-! Runs of the device store. Every call, whether it succeeds or fails, leaves tables that stand for
the map which the call leaves (`Stands.call`), so after any sequence of calls the tables of a store
stand for its contents. -/
namespace EdgeCatalog

/-- A call of the device store: one that all stores share, or one on resources. -/
inductive DeviceCall
  | record (operation : Operation Device)
  | resource (command : ResourceCommand)

namespace DeviceStore

/-- The store that a call leaves. -/
def call (s : DeviceStore) : DeviceCall → DeviceStore
  | .record operation => operation.apply s
  | .resource (.get id) => (s.getResource id).store
  | .resource (.filterOne path relation value) => (s.filterResourceOne path relation value).store
  | .resource (.filterMany path relation value page perPage) =>
    (s.filterResourceMany path relation value page perPage).store
  | .resource (.devices resources) => (s.devicesFromResources resources).store

/-- What a call answers. -/
def answer (s : DeviceStore) : DeviceCall → Except Error (Reply Device ⊕ Session.ResourceReply)
  | .record operation => (operation.answer s).map .inl
  | .resource (.get id) => (s.getResource id).result.map fun r => .inr (.record r)
  | .resource (.filterOne path relation value) =>
    (s.filterResourceOne path relation value).result.map fun r => .inr (.record r)
  | .resource (.filterMany path relation value page perPage) =>
    (s.filterResourceMany path relation value page perPage).result.map fun p => .inr (.page p)
  | .resource (.devices resources) =>
    (s.devicesFromResources resources).result.map fun devices => .inr (.devices devices)

/-- The store that a sequence of calls leaves. -/
def run (s : DeviceStore) (calls : List DeviceCall) : DeviceStore :=
  calls.foldl call s

/-- A store that some sequence of calls leaves, starting from an empty one. -/
def Reachable (s : DeviceStore) : Prop :=
  ∃ (maxPerPage : UInt64) (calls : List DeviceCall), s = run { maxPerPage } calls

/-- The whole devices in the store by their ids. -/
def contents (s : DeviceStore) : Table Device :=
  s.tables.contents

variable {s : DeviceStore}

/-! ## Reading leaves the tables as they are -/

@[simp] theorem tables_observe {α : Type} (s : DeviceStore) (result : Except Error α) :
    (s.observe result).store.tables = s.tables := by
  unfold observe
  split <;> rfl

@[simp] theorem tables_get (s : DeviceStore) (id : String) :
    (s.get id).store.tables = s.tables := by
  rw [get, tables_observe]

@[simp] theorem tables_page (s : DeviceStore) (devices : Except Error (List Device)) (total : Nat) :
    (s.page devices total).store.tables = s.tables :=
  tables_observe s devices

@[simp] theorem tables_getMany (s : DeviceStore) (page perPage : UInt64) :
    (s.getMany page perPage).store.tables = s.tables := by
  rw [getMany, tables_page]

theorem tables_firstMatch (s : DeviceStore) (q : Query) (ids : List String) :
    (s.firstMatch q ids).store.tables = s.tables := by
  induction ids generalizing s with
  | nil => rfl
  | cons id rest ih =>
    rw [firstMatch]
    dsimp only
    split
    · rw [ih, tables_observe]
    · split
      · rfl
      · rfl
      · exact ih s

theorem tables_allMatches (s : DeviceStore) (q : Query) (ids : List String) :
    (s.allMatches q ids).store.tables = s.tables := by
  induction ids generalizing s with
  | nil => rfl
  | cons id rest ih =>
    rw [allMatches]
    dsimp only
    split
    · rw [ih, tables_observe]
    · split
      · rfl
      · exact ih s

@[simp] theorem tables_filterOne (s : DeviceStore) (path relation value : String) :
    (s.filterOne path relation value).store.tables = s.tables := by
  rw [filterOne]
  split
  · rfl
  · exact tables_firstMatch _ _ _

@[simp] theorem tables_filterMany (s : DeviceStore) (path relation value : String)
    (page perPage : UInt64) :
    (s.filterMany path relation value page perPage).store.tables = s.tables := by
  rw [filterMany]
  split
  · rfl
  · dsimp only
    split
    · exact tables_allMatches _ _ _
    · rw [tables_page]
      exact tables_allMatches _ _ _

@[simp] theorem tables_resource (s : DeviceStore) (command : ResourceCommand) :
    (s.call (.resource command)).tables = s.tables := by
  cases command with
  | get id => rfl
  | filterOne path relation value =>
    rw [call, filterResourceOne]
    split <;> rfl
  | filterMany path relation value page perPage =>
    rw [call, filterResourceMany]
    split <;> rfl
  | devices resources =>
    rw [call, devicesFromResources]
    split
    · rfl
    · exact tables_observe _ _

end DeviceStore

/-! ## What calls do to the map -/

namespace DeviceMap

/-- The map that a call leaves: only writing changes it. -/
def call (m : Table Device) : DeviceCall → Table Device
  | .record (.add now d) => (add m now d).2
  | .record (.update now id d) => (update m now id d).2
  | .record (.delete id) => (delete m id).2
  | .record (.cleanExpired now) => (cleanExpired m now).2
  | _ => m

end DeviceMap

namespace DeviceStore

open DeviceTables (Stands)

variable {s : DeviceStore} {m : Table Device}

/-- One call: the tables it leaves stand for the map it leaves. -/
theorem stands_call (h : s.tables.Stands m) (c : DeviceCall) :
    (s.call c).tables.Stands (DeviceMap.call m c) := by
  cases c with
  | record operation =>
    cases operation with
    | add now d => exact (add_simulates h now d).2
    | update now id d => exact (update_simulates h now id d).2
    | delete id => exact (delete_simulates h id).2
    | cleanExpired now => exact (cleanExpired_simulates h now).2
    | get id => exact (tables_get s id).symm ▸ h
    | getMany page perPage => exact (tables_getMany s page perPage).symm ▸ h
    | filterOne path relation value => exact (tables_filterOne s path relation value).symm ▸ h
    | filterMany path relation value page perPage =>
      exact (tables_filterMany s path relation value page perPage).symm ▸ h
  | resource command => exact (tables_resource s command).symm ▸ h

/-- All calls, one after the other. -/
theorem stands_run (h : s.tables.Stands m) (calls : List DeviceCall) :
    (s.run calls).tables.Stands (calls.foldl DeviceMap.call m) := by
  induction calls generalizing s m with
  | nil => exact h
  | cons c rest ih => exact ih (stands_call h c)

/-- The tables of a reachable store stand for its contents. -/
theorem Reachable.stands (h : s.Reachable) : s.tables.Stands s.contents := by
  obtain ⟨maxPerPage, calls, rfl⟩ := h
  have hs := stands_run (s := { maxPerPage }) Stands.empty calls
  exact ⟨hs.rows, hs.indexed, rfl⟩

/-- A call on a reachable store leaves a reachable one. -/
theorem Reachable.call (h : s.Reachable) (c : DeviceCall) : (s.call c).Reachable := by
  obtain ⟨maxPerPage, calls, rfl⟩ := h
  exact ⟨maxPerPage, calls ++ [c], by rw [run, run, List.foldl_append]; rfl⟩

end DeviceStore

end EdgeCatalog
