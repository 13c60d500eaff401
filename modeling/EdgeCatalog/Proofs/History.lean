import Mathlib
import EdgeCatalog.Proofs.Device.Charging
import EdgeCatalog.Proofs.Device.Enumeration
import EdgeCatalog.Proofs.Device.Lifetime
import EdgeCatalog.Proofs.Service.Charging
import EdgeCatalog.Proofs.Service.Enumeration
import EdgeCatalog.Proofs.Service.Lifetime

/-! What is read does not depend on how a store came about. Stores that are configured alike and
show the same record under every id keep the same tables, whatever was called on them and in
whatever order their tables were gone through, so they differ in their counters at most, and reading
does not look at those. -/
namespace EdgeCatalog

section

variable {σ ε : Type} [RecordStore σ ε]

/-- All listings and filters of records give the same results in two stores. -/
structure ListsAlike (s s' : σ) : Prop where
  getMany : ∀ page perPage,
    (RecordStore.getMany s page perPage).result = (RecordStore.getMany s' page perPage).result
  filterOne : ∀ path relation value, (RecordStore.filterOne s path relation value).result =
    (RecordStore.filterOne s' path relation value).result
  filterMany : ∀ path relation value page perPage,
    (RecordStore.filterMany s path relation value page perPage).result =
      (RecordStore.filterMany s' path relation value page perPage).result

/-- A change that calls do not notice does not show in listings and filters. -/
theorem Unnoticed.listsAlike {f : σ → σ} (h : Unnoticed f) (s : σ) : ListsAlike s (f s) where
  getMany page perPage := (congrArg (·.result) (h.getMany s page perPage)).symm
  filterOne path relation value := (congrArg (·.result) (h.filterOne s path relation value)).symm
  filterMany path relation value page perPage :=
    (congrArg (·.result) (h.filterMany s path relation value page perPage)).symm

end

/-! ## Devices -/

namespace DeviceStore

open DeviceTables (Stands)

/-- All listings and filters, of devices and of resources, give the same results in two stores. -/
structure ReadsAlike (s s' : DeviceStore) : Prop extends ListsAlike s s' where
  filterResourceOne : ∀ path relation value, (s.filterResourceOne path relation value).result =
    (s'.filterResourceOne path relation value).result
  filterResourceMany : ∀ path relation value page perPage,
    (s.filterResourceMany path relation value page perPage).result =
      (s'.filterResourceMany path relation value page perPage).result
  devicesFromResources : ∀ resources,
    (s.devicesFromResources resources).result = (s'.devicesFromResources resources).result

variable {s s' : DeviceStore} {m : Table Device}

theorem readsAlike_charge (k : Metrics) (s : DeviceStore) : s.ReadsAlike (s.charge k) where
  toListsAlike := (unnoticed_charge k).listsAlike s
  filterResourceOne path relation value :=
    (congrArg (·.result) (charge_filterResourceOne k s path relation value)).symm
  filterResourceMany path relation value page perPage :=
    (congrArg (·.result) (charge_filterResourceMany k s path relation value page perPage)).symm
  devicesFromResources resources :=
    (congrArg (·.result) (charge_devicesFromResources k s resources)).symm

/-- What is read under an id depends on nothing but the tables. -/
theorem result_get_of_tables (h : s.tables = s'.tables) (id : String) :
    (s.get id).result = (s'.get id).result := by
  rw [get, get, result_observe, result_observe, h]

/-- Stores that hold the same devices and are configured alike differ in their counters at most. -/
theorem exists_charge_eq (h : s.tables.Stands m) (h' : s'.tables.Stands m)
    (hconfig : s.maxPerPage = s'.maxPerPage) : ∃ k, s.charge k = s' := by
  obtain ⟨k, hk⟩ := Metrics.exists_add_eq s.metrics s'.metrics
  exact ⟨k, eq_of_stands (s := s.charge k) h h' hconfig hk⟩

theorem readsAlike_of_get (hs : s.Reachable) (hs' : s'.Reachable)
    (hconfig : s.maxPerPage = s'.maxPerPage)
    (hget : ∀ id, (s.get id).result = (s'.get id).result) : s.ReadsAlike s' := by
  have hcontents : s.contents = s'.contents := tracks.records_eq_of_get hs hs' hget
  obtain ⟨k, rfl⟩ := exists_charge_eq hs.stands (hcontents ▸ hs'.stands) hconfig
  exact readsAlike_charge k s

end DeviceStore

/-! ## Registrations -/

namespace ServiceStore

open ServiceTables (Stands)

variable {s s' : ServiceStore} {m : Table Service}

theorem result_get_of_tables (h : s.tables = s'.tables) (id : String) :
    (s.get id).result = (s'.get id).result := by
  rw [get, get, h]

/-- Stores that hold the same registrations and are configured alike differ in their counters at
most. -/
theorem exists_charge_eq (h : s.tables.Stands m) (h' : s'.tables.Stands m)
    (hconfig : s.maxPerPage = s'.maxPerPage) : ∃ k, s.charge k = s' := by
  obtain ⟨k, hk⟩ := Metrics.exists_add_eq s.metrics s'.metrics
  exact ⟨k, eq_of_stands (s := s.charge k) h h' hconfig hk⟩

theorem listsAlike_of_get (hs : s.Reachable) (hs' : s'.Reachable)
    (hconfig : s.maxPerPage = s'.maxPerPage)
    (hget : ∀ id, (s.get id).result = (s'.get id).result) : ListsAlike s s' := by
  have hdata : s.tables.data = s'.tables.data := tracks.records_eq_of_get hs hs' hget
  obtain ⟨k, rfl⟩ := exists_charge_eq hs.stands (hdata ▸ hs'.stands) hconfig
  exact (unnoticed_charge k).listsAlike s

end ServiceStore

/-- Two stores that are configured alike and show the same record under every id answer all listings
and filters alike, whatever was called on either of them before, and in whatever order the tables
were gone through then. -/
theorem reads_determined :
    (∀ s s' : DeviceStore, s.Arises → s'.Arises → s.maxPerPage = s'.maxPerPage →
      (∀ id, (s.get id).result = (s'.get id).result) → s.ReadsAlike s') ∧
    (∀ s s' : ServiceStore, s.Arises → s'.Arises → s.maxPerPage = s'.maxPerPage →
      (∀ id, (s.get id).result = (s'.get id).result) → ListsAlike s s') :=
  ⟨fun _ _ hs hs' hconfig hget => DeviceStore.readsAlike_of_get (DeviceStore.arises_iff.mp hs)
      (DeviceStore.arises_iff.mp hs') hconfig hget,
    fun _ _ hs hs' hconfig hget => ServiceStore.listsAlike_of_get (ServiceStore.arises_iff.mp hs)
      (ServiceStore.arises_iff.mp hs') hconfig hget⟩

/-- A device store that was filled in another order, with a device in between that is gone again,
and whose tables were gone through backwards in the end, and a service store that was filled in
another order. -/
theorem reads_determined_backwards :
    let b : Device := { id := "a/b", resources := [{ id := "a/b/x" }] }
    let s := DeviceStore.run {} [.record (.add .epoch b), .record (.add .epoch { id := "a/c" })]
    let before := DeviceStore.run {} [.record (.add .epoch { id := "a/d" }),
      .record (.add .epoch { id := "a/c" }), .record (.delete "a/d")]
    let rows := before.tables.insert (DeviceMap.stamped "a/b" .epoch .epoch (some .epoch) b)
    let s' : DeviceStore := { before with
      tables := { rows with
        index := rows.index.rebuild ["a/c", "a/b"]
        units := rows.units.rebuild ["a/c", "a/b/x"] }
      metrics := before.metrics.recordAdd }
    let t := ServiceStore.run {} [.add .epoch { id := "a/b" }, .add .epoch { id := "a/c" }]
    let t' := ServiceStore.run {} [.add .epoch { id := "a/c" }, .add .epoch { id := "a/b" }]
    (s.metrics ≠ s'.metrics ∧ s.ReadsAlike s') ∧ ListsAlike t t' :=
  ⟨⟨by decide, reads_determined.1 _ _ (DeviceStore.arises_iff.mpr ⟨100, _, rfl⟩)
      (.call (DeviceStore.arises_iff.mpr ⟨100, _, rfl⟩)
        (.add .epoch { id := "a/b", resources := [{ id := "a/b/x" }] } (by rfl)
          (.intro ["a/c", "a/b"] ["a/c", "a/b/x"] (by decide) (by decide))))
      rfl (DeviceStore.result_get_of_tables (by rfl))⟩,
    reads_determined.2 _ _ (ServiceStore.arises_iff.mpr ⟨100, _, rfl⟩)
      (ServiceStore.arises_iff.mpr ⟨100, _, rfl⟩) rfl
      (ServiceStore.result_get_of_tables (by rfl))⟩

end EdgeCatalog
