import Mathlib
import EdgeCatalog.Proofs.Commutation
import EdgeCatalog.Proofs.Instant.Arithmetic

/-! Writing back what was read. A record comes out of a store as it may be stored again: with the
store's own stamps, under its own id and as the owner of its resources. So an update with it, or an
addition of it after a deletion, renews the stamps of the time and is the same otherwise, and so is
the store, row for row. -/
namespace EdgeCatalog

section

open RecordStore (add update delete get metrics)

variable {σ ε : Type} [RecordStore σ ε]

/-- A record is written back under the id that it was read from: by an update, and by an addition
after a deletion. `left entry k` is the store as it was, but for the entry in the place of the one
that was read, and for `k` on the counters. -/
structure WritesBack (s : σ) (now : Instant) (id : String) (r updated added : ε)
    (left : ε → Metrics → σ) : Prop where
  update_result : (update s now id r).result = .ok updated
  update_store : (update s now id r).store = left updated { updates := 1 }
  delete_result : (delete s id).result = .ok r
  add_result : (add (delete s id).store now r).result = .ok added
  add_store : (add (delete s id).store now r).store = left added { adds := 1, deletes := 1 }
  /-- The entry is what is read from then on, and all other ids read as before. -/
  update_reads : ∀ other, (get (left updated { updates := 1 }) other).result =
    if id = other then .ok updated else (get s other).result
  add_reads : ∀ other, (get (left added { adds := 1, deletes := 1 }) other).result =
    if id = other then .ok added else (get s other).result

variable [Perishable ε]

/-- A settled store in which a record may be put in the place of one that it is like: `left` is then
what becomes of the store, and no other id reads otherwise. -/
structure Rewritable (config : σ → UInt64) (valid : σ → Prop) (records : σ → Table ε)
    (like : ε → ε → Prop) (left : σ → ε → Metrics → σ) : Prop extends
    Settled config valid records where
  eq_left : ∀ {s s'}, valid s → valid s' → ∀ {r entry k},
    (records s).get? (Perishable.id r) = some r → like entry r →
    records s' = (records s).insert (Perishable.id r) entry → config s' = config s →
    metrics s' = metrics s + k → s' = left s entry k
  get_insert : ∀ {s s'}, valid s → valid s' → ∀ {id entry},
    records s' = (records s).insert id entry → ∀ other,
    (get s' other).result = if id = other then .ok entry else (get s other).result

variable {config : σ → UInt64} {valid : σ → Prop} {records : σ → Table ε} {like : ε → ε → Prop}
  {left : σ → ε → Metrics → σ} {s : σ} {now : Instant} {id : String} {entry r updated added : ε}

/-! ## Writes that succeed -/

namespace Bookkeeping

variable (h : Bookkeeping valid records) (hs : valid s)

include h hs

theorem records_add (hok : (add s now entry).result = .ok r) :
    records (add s now entry).store = (records s).insert (Perishable.id entry) r := by
  have hrecords := h.records_apply hs (.add now entry)
  rwa [Operation.effect, hok] at hrecords

theorem metrics_add (hok : (add s now entry).result = .ok r) :
    metrics (add s now entry).store = metrics s + { adds := 1 } := by
  have hmetrics := h.metrics_apply hs (.add now entry)
  rwa [Operation.answer, hok] at hmetrics

theorem records_update (hok : (update s now id entry).result = .ok r) :
    records (update s now id entry).store = (records s).insert id r := by
  have hrecords := h.records_apply hs (.update now id entry)
  rwa [Operation.effect, hok] at hrecords

theorem metrics_update (hok : (update s now id entry).result = .ok r) :
    metrics (update s now id entry).store = metrics s + { updates := 1 } := by
  have hmetrics := h.metrics_apply hs (.update now id entry)
  rwa [Operation.answer, hok] at hmetrics

theorem records_delete (hok : (delete s id).result = .ok r) :
    records (delete s id).store = (records s).erase id := by
  have hrecords := h.records_apply hs (.delete id)
  rwa [Operation.effect, hok] at hrecords

theorem metrics_delete (hok : (delete s id).result = .ok r) :
    metrics (delete s id).store = metrics s + { deletes := 1 } := by
  have hmetrics := h.metrics_apply hs (.delete id)
  rwa [Operation.answer, hok] at hmetrics

end Bookkeeping

namespace Rewritable

variable (h : Rewritable config valid records like left) (hs : valid s)

include h hs

theorem store_update (hr : (records s).get? (Perishable.id r) = some r)
    (hok : (update s now (Perishable.id r) r).result = .ok updated) (hlike : like updated r) :
    (update s now (Perishable.id r) r).store = left s updated { updates := 1 } :=
  h.eq_left hs (h.valid_apply hs (.update now (Perishable.id r) r)) hr hlike
    (h.records_update hs hok) (h.config_apply s (.update now _ r)) (h.metrics_update hs hok)

theorem records_add_delete (hdelete : (delete s (Perishable.id r)).result = .ok r)
    (hadd : (add (delete s (Perishable.id r)).store now r).result = .ok added) :
    records (add (delete s (Perishable.id r)).store now r).store =
      (records s).insert (Perishable.id r) added := by
  have hdeleted : valid (delete s (Perishable.id r)).store := h.valid_apply hs (.delete _)
  rw [h.records_add hdeleted hadd, h.records_delete hs hdelete, Table.insert_erase]

/-- A deletion leaves no trace once the record is added again, but on the counters. -/
theorem store_add_delete (hr : (records s).get? (Perishable.id r) = some r)
    (hdelete : (delete s (Perishable.id r)).result = .ok r)
    (hadd : (add (delete s (Perishable.id r)).store now r).result = .ok added)
    (hlike : like added r) :
    (add (delete s (Perishable.id r)).store now r).store =
      left s added { adds := 1, deletes := 1 } := by
  have hdeleted : valid (delete s (Perishable.id r)).store := h.valid_apply hs (.delete _)
  have hmetrics : metrics (add (delete s (Perishable.id r)).store now r).store =
      metrics s + { adds := 1, deletes := 1 } := by
    rw [h.metrics_add hdeleted hadd, h.metrics_delete hs hdelete, add_assoc]
    rfl
  exact h.eq_left hs (h.valid_apply hdeleted (.add now r)) hr hlike
    (h.records_add_delete hs hdelete hadd)
    ((h.config_apply _ (.add now r)).trans (h.config_apply s (.delete _))) hmetrics

theorem writesBack (hr : (records s).get? (Perishable.id r) = some r)
    (hupdate : (update s now (Perishable.id r) r).result = .ok updated)
    (hupdated : like updated r) (hdelete : (delete s (Perishable.id r)).result = .ok r)
    (hadd : (add (delete s (Perishable.id r)).store now r).result = .ok added)
    (hadded : like added r) :
    WritesBack s now (Perishable.id r) r updated added (left s) := by
  have hleft := h.store_update hs hr hupdate hupdated
  have hleft' := h.store_add_delete hs hr hdelete hadd hadded
  refine ⟨hupdate, hleft, hdelete, hadd, hleft', ?_, ?_⟩
  · rw [← hleft]
    exact h.get_insert hs (h.valid_apply hs (.update now _ r)) (h.records_update hs hupdate)
  · rw [← hleft']
    have hdeleted : valid (delete s (Perishable.id r)).store := h.valid_apply hs (.delete _)
    exact h.get_insert hs (h.valid_apply hdeleted (.add now r))
      (h.records_add_delete hs hdelete hadd)

end Rewritable

end

/-! ## Devices -/

namespace DeviceMap

variable {m : Table Device} {now : Instant} {d : Device} {expires : Option Instant}

theorem map_device_self {id : String} {resources : List Resource}
    (h : ∀ r ∈ resources, r.device = id) :
    (resources.map fun r => { r with device := id }) = resources := by
  calc
    (resources.map fun r => { r with device := id }) = resources.map fun r => r :=
      List.map_congr_left fun r hr => by rw [← h r hr]
    _ = resources := List.map_id' resources

/-- A device that may be stored owns its resources already. -/
theorem stamped_self (h : d.Storable) (created now : Instant) (expires : Option Instant) :
    stamped d.id created now expires d = { d with created, updated := now, expires } := by
  rw [stamped, map_device_self fun r hr => (h.owned r hr).1]

theorem ownIds_of_storable (h : d.Storable) : OwnIds d.id (d.resources.map (·.id)) := by
  refine ⟨fun rid hrid => ?_, h.nodup⟩
  obtain ⟨r, hr, rfl⟩ := List.mem_map.mp hrid
  exact (h.owned r hr).2

theorem update_self (h : d.Storable) (hold : m.get? d.id = some d)
    (hexpires : Expiry.expiryFor now d.ttl = .ok expires) :
    update m now d.id d = (.ok { d with updated := now, expires },
      m.insert d.id { d with updated := now, expires }) := by
  rw [update, hexpires]
  dsimp only
  rw [hold]
  dsimp only
  rw [dif_pos (ownIds_of_storable h), stamped_self h]

theorem delete_self (hold : m.get? d.id = some d) : delete m d.id = (.ok d, m.erase d.id) := by
  rw [delete, hold]

theorem add_erased (h : d.Storable) (hexpires : Expiry.expiryFor now d.ttl = .ok expires) :
    add (m.erase d.id) now d = (.ok { d with created := now, updated := now, expires },
      m.insert d.id { d with created := now, updated := now, expires }) := by
  have hnew : ¬(m.erase d.id).contains d.id = true := by
    simp [Table.contains, Table.get?_erase]
  rw [add, if_pos h.isRecord, hexpires]
  dsimp only
  rw [if_neg hnew, dif_pos (ownIds_of_storable h), stamped_self h, Table.insert_erase]

theorem get_insert (m : Table Device) (id : String) (d : Device) (other : String) :
    get (m.insert id d) other = if id = other then .ok d else get m other := by
  rw [get, get, Table.get?_insert]
  by_cases hid : id = other
  · rw [if_pos hid, if_pos hid]
  · rw [if_neg hid, if_neg hid]

end DeviceMap

namespace DeviceStore

open DeviceTables (Stands rowOf)

variable {s s' : DeviceStore} {m : Table Device} {r d : Device} {k : Metrics} {now : Instant}
  {expires : Option Instant}

/-- The store with a device row in the place of the one under its id, and with more on the
counters. -/
def left (s : DeviceStore) (d : Device) (k : Metrics) : DeviceStore :=
  { s with
    tables := { s.tables with devices := s.tables.devices.insert d.id (rowOf d) }
    metrics := s.metrics + k }

/-- A device in the place of one with the same resources makes a difference to its row only. -/
theorem eq_left (h : s.tables.Stands m) (h' : s'.tables.Stands (m.insert d.id d))
    (hold : m.get? d.id = some r) (hsame : d.resources = r.resources)
    (hconfig : s'.maxPerPage = s.maxPerPage) (hmetrics : s'.metrics = s.metrics + k) :
    s' = s.left d k := by
  obtain ⟨hresources, hindex, hunits⟩ := h'.aside_congr h (Table.map_insert_of_eq hold hsame)
  have hdevices : s'.tables.devices = s.tables.devices.insert d.id (rowOf d) := by
    rw [h'.devices_eq, Table.map_insert, ← h.devices_eq]
  calc
    s' = ⟨⟨s'.tables.devices, s'.tables.resources, s'.tables.index, s'.tables.units⟩,
      s'.maxPerPage, s'.metrics⟩ := rfl
    _ = s.left d k := by
      rw [hdevices, hresources, hindex, hunits, hconfig, hmetrics, left]

theorem rewritable : Rewritable maxPerPage Reachable contents
    (fun d r => d.id = r.id ∧ d.resources = r.resources) left where
  toSettled := settled
  eq_left {s s'} hs hs' {r d k} hr hlike hcontents hconfig hmetrics := by
    have hid : Perishable.id r = d.id := hlike.1.symm
    rw [hid] at hr hcontents
    exact eq_left hs.stands (hcontents ▸ hs'.stands) hr hlike.2 hconfig hmetrics
  get_insert {s s'} hs hs' {id d} hcontents other := by
    show (s'.get other).result = if id = other then .ok d else (s.get other).result
    rw [result_get hs'.stands, hcontents, DeviceMap.get_insert, result_get hs.stands]

theorem writesBack (hs : s.Reachable) (hr : s.contents.get? r.id = some r)
    (hexpires : Expiry.expiryFor now r.ttl = .ok expires) :
    WritesBack s now r.id r { r with updated := now, expires }
      { r with created := now, updated := now, expires } s.left := by
  have hstorable := hs.stands.rows.storable hr
  obtain ⟨hupdate, -⟩ := update_simulates hs.stands now r.id r
  rw [DeviceMap.update_self hstorable hr hexpires] at hupdate
  obtain ⟨hdelete, hdeleted⟩ := delete_simulates hs.stands r.id
  rw [DeviceMap.delete_self hr] at hdelete hdeleted
  obtain ⟨hadd, -⟩ := add_simulates hdeleted now r
  rw [DeviceMap.add_erased hstorable hexpires] at hadd
  exact rewritable.writesBack hs hr hupdate ⟨rfl, rfl⟩ hdelete hadd ⟨rfl, rfl⟩

end DeviceStore

/-! ## Registrations -/

namespace ServiceMap

variable {m : Table Service} {now : Instant} {service : Service} {expires : Option Instant}

theorem update_self (hold : m.get? service.id = some service)
    (hexpires : Expiry.expiryFor now service.ttl = .ok expires) :
    update m now service.id service = (.ok { service with updated := now, expires },
      m.insert service.id { service with updated := now, expires }) := by
  rw [update, hexpires]
  dsimp only
  rw [hold]
  rfl

theorem delete_self (hold : m.get? service.id = some service) :
    delete m service.id = (.ok service, m.erase service.id) := by
  rw [delete, hold]

theorem add_erased (hid : Id.IsRecord service.id)
    (hexpires : Expiry.expiryFor now service.ttl = .ok expires) :
    add (m.erase service.id) now service =
      (.ok { service with created := now, updated := now, expires },
        m.insert service.id { service with created := now, updated := now, expires }) := by
  have hnew : ¬(m.erase service.id).contains service.id = true := by
    simp [Table.contains, Table.get?_erase]
  rw [add, if_pos hid, hexpires]
  dsimp only
  rw [if_neg hnew, Table.insert_erase]
  rfl

theorem get_insert (m : Table Service) (id : String) (service : Service) (other : String) :
    get (m.insert id service) other = if id = other then .ok service else get m other := by
  rw [get, get, Table.get?_insert]
  by_cases hid : id = other
  · rw [if_pos hid, if_pos hid]
  · rw [if_neg hid, if_neg hid]

end ServiceMap

namespace ServiceStore

open ServiceTables (Stands)

variable {s s' : ServiceStore} {m : Table Service} {r e : Service} {k : Metrics}
  {now : Instant} {expires : Option Instant}

/-- The store with a registration in the place of the one under its id, and with more on the
counters. -/
def left (s : ServiceStore) (service : Service) (k : Metrics) : ServiceStore :=
  { s with
    tables := { s.tables with data := s.tables.data.insert service.id service }
    metrics := s.metrics + k }

theorem eq_left (h : s.tables.Stands m) (h' : s'.tables.Stands (m.insert e.id e))
    (hold : m.get? e.id = some r) (hconfig : s'.maxPerPage = s.maxPerPage)
    (hmetrics : s'.metrics = s.metrics + k) : s' = s.left e k := by
  have hdata : s'.tables.data = s.tables.data.insert e.id e := by
    rw [h'.data, h.data]
  have hindex : s'.tables.index = s.tables.index := by
    rw [← h'.indexed, ← h.indexed]
    simp only [ServiceTables.reindex, Index.rebuild, h'.data, h.data,
      Table.keys_insert_of_get? hold]
  calc
    s' = ⟨⟨s'.tables.data, s'.tables.index⟩, s'.maxPerPage, s'.metrics⟩ := rfl
    _ = s.left e k := by rw [hdata, hindex, hconfig, hmetrics, left]

theorem rewritable :
    Rewritable maxPerPage Reachable (fun s => s.tables.data) (fun e r => e.id = r.id) left where
  toSettled := settled
  eq_left {s s'} hs hs' {r e k} hr hlike hdata hconfig hmetrics := by
    have hid : Perishable.id r = e.id := hlike.symm
    rw [hid] at hr hdata
    exact eq_left hs.stands (hdata ▸ hs'.stands) hr hconfig hmetrics
  get_insert {s s'} hs hs' {id e} hdata other := by
    show (s'.get other).result = if id = other then .ok e else (s.get other).result
    rw [result_get hs'.stands, hdata, ServiceMap.get_insert, result_get hs.stands]

theorem writesBack (hs : s.Reachable) (hr : s.tables.data.get? r.id = some r)
    (hexpires : Expiry.expiryFor now r.ttl = .ok expires) :
    WritesBack s now r.id r { r with updated := now, expires }
      { r with created := now, updated := now, expires } s.left := by
  obtain ⟨hupdate, -⟩ := update_simulates hs.stands now r.id r
  rw [ServiceMap.update_self hr hexpires] at hupdate
  obtain ⟨hdelete, hdeleted⟩ := delete_simulates hs.stands r.id
  rw [ServiceMap.delete_self hr] at hdelete hdeleted
  obtain ⟨hadd, -⟩ := add_simulates hdeleted now r
  rw [ServiceMap.add_erased (hs.stands.storable hr).isRecord hexpires] at hadd
  exact rewritable.writesBack hs hr hupdate rfl hdelete hadd rfl

end ServiceStore

/-! ## Both stores -/

/-- A record that was read from a store, written back while its time to live leads to an instant in
range, is stored again with new times and no other change, whether it is put in the place of the
record or deleted and added anew. In the store nothing but its row and the counters is different. -/
theorem reads_write_back :
    (∀ (s : DeviceStore) (id : String) (r : Device) (now : Instant) (expires : Option Instant),
      s.Reachable → (s.get id).result = .ok r → Expiry.expiryFor now r.ttl = .ok expires →
      WritesBack s now id r { r with updated := now, expires }
        { r with created := now, updated := now, expires } s.left) ∧
    (∀ (s : ServiceStore) (id : String) (r : Service) (now : Instant) (expires : Option Instant),
      s.Reachable → (s.get id).result = .ok r → Expiry.expiryFor now r.ttl = .ok expires →
      WritesBack s now id r { r with updated := now, expires }
        { r with created := now, updated := now, expires } s.left) := by
  constructor
  · intro s id r now expires hs hget hexpires
    have hr : s.contents.get? id = some r := (DeviceStore.result_get_eq_ok_iff hs.stands).mp hget
    obtain rfl := hs.stands.rows.id_eq_of_contents hr
    exact DeviceStore.writesBack hs hr hexpires
  · intro s id r now expires hs hget hexpires
    have hr : s.tables.data.get? id = some r := by
      rwa [ServiceStore.result_get hs.stands, ServiceMap.get_eq_ok_iff] at hget
    obtain rfl := hs.stands.id_eq hr
    exact ServiceStore.writesBack hs hr hexpires

/-- The resources of the device are not in the order of their ids, and stay as they are. -/
theorem reads_write_back_unsorted :
    let s := DeviceStore.run {} [.record (.add .epoch {
      id := "a/b", ttl := 60, resources := [{ id := "a/b/y" }, { id := "a/b/x" }] })]
    let t := ServiceStore.run {} [.add .epoch { id := "a/b", ttl := -1 }]
    let resources : List Resource :=
      [{ id := "a/b/y", device := "a/b" }, { id := "a/b/x", device := "a/b" }]
    let now := Instant.of 90 0
    let due := some (Instant.of 150 0)
    WritesBack s now "a/b" { id := "a/b", ttl := 60, expires := some (.of 60 0), resources }
      { id := "a/b", ttl := 60, updated := now, expires := due, resources }
      { id := "a/b", ttl := 60, created := now, updated := now, expires := due, resources } s.left ∧
    WritesBack t now "a/b" { id := "a/b", ttl := -1 }
      { id := "a/b", ttl := -1, updated := now }
      { id := "a/b", ttl := -1, created := now, updated := now } t.left :=
  ⟨reads_write_back.1 _ _ _ _ _ ⟨100, _, rfl⟩ (by rfl) (by rfl),
    reads_write_back.2 _ _ _ _ _ ⟨100, _, rfl⟩ (by rfl) (by rfl)⟩

end EdgeCatalog
