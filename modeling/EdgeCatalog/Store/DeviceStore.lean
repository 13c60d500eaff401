import EdgeCatalog.Store.DeviceTables
import EdgeCatalog.Store.Step
import EdgeCatalog.Query

/-! The device store. -/
namespace EdgeCatalog

structure DeviceStore where
  tables : DeviceTables := {}
  maxPerPage : UInt64 := 100
  metrics : Metrics := {}

namespace DeviceStore

instance : Inhabited DeviceStore := ⟨{}⟩

/-- A write refused because of its input. -/
def reject {α : Type} (s : DeviceStore) (e : Error) : Step DeviceStore α :=
  ⟨.error e, { s with metrics := s.metrics.recordRejected }, []⟩

/-- A write to a device that is not stored. -/
def miss {α : Type} (s : DeviceStore) (id : String) : Step DeviceStore α :=
  ⟨.error (.missing (.entry id)), { s with metrics := s.metrics.recordLookup false }, []⟩

/-- Counts and logs a disagreement of the tables. -/
def observe {α : Type} (s : DeviceStore) (result : Except Error α) : Step DeviceStore α :=
  match result with
  | .error (.inconsistent cause) =>
    ⟨result, { s with metrics := s.metrics.recordInconsistency }, [.deviceTablesDisagree cause]⟩
  | _ => ⟨result, s, []⟩

/-- The resources of a device, marked as its own. -/
def own (id : String) (resources : List Resource) : List Resource :=
  resources.map fun r => { r with device := id }

/-! ## Writing -/

/-- Stores a new device and stamps it with the time. -/
def add (s : DeviceStore) (now : Instant) (d : Device) : Step DeviceStore Device :=
  match Id.checkRecord d.id with
  | .error e => s.reject e
  | .ok () =>
    match Expiry.expiryFor now d.ttl with
    | .error e => s.reject e
    | .ok expires =>
      let d := { d with
        created := now, updated := now, expires, resources := own d.id d.resources }
      if s.tables.devices.contains d.id then s.reject (.invalid (.deviceExists d.id))
      else match s.tables.checkResources d.id [] d.resources with
        | .error e => s.reject e
        | .ok () =>
          ⟨.ok d,
            { s with tables := (s.tables.insert d).reindex, metrics := s.metrics.recordAdd },
            [.deviceAdded d.id d.resources.length d.ttl]⟩

/-- Replaces a stored device, all but its id and the time of its creation. -/
def update (s : DeviceStore) (now : Instant) (id : String) (d : Device) :
    Step DeviceStore Device :=
  match Expiry.expiryFor now d.ttl with
  | .error e => s.reject e
  | .ok expires =>
    match s.tables.devices.get? id with
    | none => s.miss id
    | some stored =>
      let d := { d with
        id, created := stored.device.created, updated := now, expires,
        resources := own id d.resources }
      match s.tables.checkResources id [] d.resources with
      | .error e => s.reject e
      | .ok () =>
        let rest := match s.tables.remove id with
          | some (_, rest) => rest
          | none => s.tables
        ⟨.ok d,
          { s with tables := (rest.insert d).reindex, metrics := s.metrics.recordUpdate },
          [.deviceUpdated id d.resources.length d.ttl]⟩

/-- Takes a device out and returns it as it was. -/
def delete (s : DeviceStore) (id : String) : Step DeviceStore Device :=
  match s.tables.remove id with
  | none => s.miss id
  | some (d, rest) =>
    ⟨.ok d, { s with tables := rest.reindex, metrics := s.metrics.recordDelete },
      [.deviceDeleted id d.resources.length]⟩

/-- The ids of the devices that are due for removal. -/
def expiredIds (s : DeviceStore) (now : Instant) : List String :=
  (s.tables.devices.values.filter (·.device.isExpired now)).map (·.device.id)

/-- Takes devices out one after the other. -/
def removeAll : DeviceTables → List String → DeviceTables × List Event
  | t, [] => (t, [])
  | t, id :: rest =>
    match t.remove id with
    | none => removeAll t rest
    | some (d, t) =>
      let (t, events) := removeAll t rest
      (t, .deviceExpired id d.resources.length :: events)

/-- Removes all expired devices. -/
def cleanExpired (s : DeviceStore) (now : Instant) : Swept DeviceStore :=
  let expired := s.expiredIds now
  if expired.isEmpty then ⟨0, s, []⟩
  else
    let (tables, events) := removeAll s.tables expired
    ⟨expired.length,
      { s with
        tables := tables.reindex
        metrics := s.metrics.recordExpired (UInt64.ofNat expired.length) },
      events ++ [.devicesRemoved expired.length]⟩

/-! ## Reading -/

def size (s : DeviceStore) : Nat :=
  s.tables.devices.size

def resourceCount (s : DeviceStore) : Nat :=
  s.tables.resources.size

def get (s : DeviceStore) (id : String) : Step DeviceStore Device :=
  let result := s.tables.assemble id
  { s with metrics := s.metrics.recordLookup result.isOk }.observe result

/-- The page of a listing whose devices may be inconsistent. -/
def page (s : DeviceStore) (devices : Except Error (List Device)) (total : Nat) :
    Step DeviceStore (Page Device) :=
  let step := s.observe devices
  ⟨step.result.map (⟨·, total⟩), step.store, step.events⟩

def getMany (s : DeviceStore) (page perPage : UInt64) : Step DeviceStore (Page Device) :=
  let s := { s with metrics := s.metrics.recordListing }
  let units := s.tables.units.keys
  s.page (s.tables.devicesFromUnits (Paging.window units page perPage s.maxPerPage)) units.length

/-- The first of the devices that matches. Inconsistent devices are logged and passed over. -/
def firstMatch (s : DeviceStore) (q : Query) : List String → Step DeviceStore (Option Device)
  | [] => ⟨.ok none, s, []⟩
  | id :: rest =>
    let seen := s.observe (s.tables.assemble id)
    match seen.result with
    | .error _ =>
      let later := seen.store.firstMatch q rest
      { later with events := seen.events ++ later.events }
    | .ok d =>
      match q.eval d.toJson with
      | .error e => ⟨.error e, s, []⟩
      | .ok true => ⟨.ok (some d), s, []⟩
      | .ok false => s.firstMatch q rest

/-- All of the devices that match. Inconsistent devices are logged and passed over. -/
def allMatches (s : DeviceStore) (q : Query) : List String → Step DeviceStore (List Device)
  | [] => ⟨.ok [], s, []⟩
  | id :: rest =>
    let seen := s.observe (s.tables.assemble id)
    match seen.result with
    | .error _ =>
      let later := seen.store.allMatches q rest
      { later with events := seen.events ++ later.events }
    | .ok d =>
      match q.eval d.toJson with
      | .error e => ⟨.error e, s, []⟩
      | .ok hit =>
        let later := s.allMatches q rest
        { later with result := later.result.map fun ds => if hit then d :: ds else ds }

def filterOne (s : DeviceStore) (path relation value : String) : Step DeviceStore Device :=
  match Query.parse path relation value with
  | .error e => ⟨.error e, s, []⟩
  | .ok q =>
    let s := { s with metrics := s.metrics.recordQuery }
    let found := s.firstMatch q s.tables.index.keys
    { found with
      result := match found.result with
        | .error e => .error e
        | .ok (some d) => .ok d
        | .ok none => .error (.missing (.matching .device path relation value)) }

/-- Pages over the units of the matching devices, device after device. -/
def filterMany (s : DeviceStore) (path relation value : String) (page perPage : UInt64) :
    Step DeviceStore (Page Device) :=
  match Query.parse path relation value with
  | .error e => ⟨.error e, s, []⟩
  | .ok q =>
    let s := { s with metrics := s.metrics.recordQuery }
    let found := s.allMatches q s.tables.index.keys
    match found.result with
    | .error e => ⟨.error e, found.store, found.events⟩
    | .ok matched =>
      let units := matched.flatMap DeviceTables.unitsOf
      let shown := found.store.page
        (s.tables.devicesFromUnits (Paging.window units page perPage s.maxPerPage)) units.length
      { shown with events := found.events ++ shown.events }

/-! ## Resources -/

def getResource (s : DeviceStore) (id : String) : Step DeviceStore Resource :=
  let found := s.tables.resources.get? id
  ⟨match found with
    | some r => .ok r
    | none => .error (.missing (.entry id)),
    { s with metrics := s.metrics.recordLookup found.isSome }, []⟩

/-- The stored resources in index order. -/
def resourcesInOrder (s : DeviceStore) : List Resource :=
  s.tables.units.keys.filterMap s.tables.resources.get?

def firstResource (q : Query) : List Resource → Except Error (Option Resource)
  | [] => .ok none
  | r :: rest =>
    match q.eval r.toJson with
    | .error e => .error e
    | .ok true => .ok (some r)
    | .ok false => firstResource q rest

def allResources (q : Query) : List Resource → Except Error (List Resource)
  | [] => .ok []
  | r :: rest =>
    match q.eval r.toJson with
    | .error e => .error e
    | .ok hit => (allResources q rest).map fun rs => if hit then r :: rs else rs

def filterResourceOne (s : DeviceStore) (path relation value : String) :
    Step DeviceStore Resource :=
  match Query.parse path relation value with
  | .error e => ⟨.error e, s, []⟩
  | .ok q =>
    ⟨match firstResource q s.resourcesInOrder with
      | .error e => .error e
      | .ok (some r) => .ok r
      | .ok none => .error (.missing (.matching .resource path relation value)),
      { s with metrics := s.metrics.recordQuery }, []⟩

def filterResourceMany (s : DeviceStore) (path relation value : String) (page perPage : UInt64) :
    Step DeviceStore (Page Resource) :=
  match Query.parse path relation value with
  | .error e => ⟨.error e, s, []⟩
  | .ok q =>
    ⟨(allResources q s.resourcesInOrder).map fun matched =>
        ⟨Paging.window matched page perPage s.maxPerPage, matched.length⟩,
      { s with metrics := s.metrics.recordQuery }, []⟩

/-- A resource under its stored owner, whatever owner it names itself. -/
def withStoredOwner (s : DeviceStore) (r : Resource) : Except Error (String × Option Resource) :=
  match s.tables.resources.get? r.id with
  | none => .error (.missing (.entry r.id))
  | some stored => .ok (stored.device, some { r with device := stored.device })

/-- Groups resources under their stored owners, in the order in which the owners first appear. -/
def devicesFromResources (s : DeviceStore) (resources : List Resource) :
    Step DeviceStore (List Device) :=
  match resources.mapM s.withStoredOwner with
  | .error e => ⟨.error e, s, []⟩
  | .ok units => s.observe (s.tables.reconcile units)

def summary (s : DeviceStore) : String :=
  "DeviceStore \x7b devices: " ++ toString s.size ++ ", resources: " ++ toString s.resourceCount
    ++ ", config: " ++ storeConfigText s.maxPerPage ++ " \x7d"

instance : RecordStore DeviceStore Device where
  add := add
  update := update
  delete := delete
  get := get
  getMany := getMany
  filterOne := filterOne
  filterMany := filterMany
  cleanExpired := cleanExpired
  size := size
  metrics := metrics
  resetMetrics s := { s with metrics := {} }
  summary := summary

end DeviceStore

end EdgeCatalog
