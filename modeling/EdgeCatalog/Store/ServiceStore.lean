import EdgeCatalog.Record.Service
import EdgeCatalog.Store.Step
import EdgeCatalog.Query
import EdgeCatalog.Index

/-! The service store: registrations by id, and the index of the ids. -/
namespace EdgeCatalog

structure ServiceTables where
  data : Table Service := ∅
  index : Index := ∅

namespace ServiceTables

instance : Inhabited ServiceTables := ⟨{}⟩

/-- Derives the index from the rows. -/
def reindex (t : ServiceTables) : ServiceTables :=
  { t with index := t.index.rebuild t.data.keys }

/-- The registration under a key of the index. -/
def entry (t : ServiceTables) (id : String) : Except Error Service :=
  match t.data.get? id with
  | some service => .ok service
  | none => .error (.inconsistent (.registrationRow id))

end ServiceTables

structure ServiceStore where
  tables : ServiceTables := {}
  maxPerPage : UInt64 := 100
  metrics : Metrics := {}

namespace ServiceStore

instance : Inhabited ServiceStore := ⟨{}⟩

/-- A write refused because of its input. -/
def reject {α : Type} (s : ServiceStore) (e : Error) : Step ServiceStore α :=
  ⟨.error e, { s with metrics := s.metrics.recordRejected }, []⟩

/-- A write to a registration that is not stored. -/
def miss {α : Type} (s : ServiceStore) (id : String) : Step ServiceStore α :=
  ⟨.error (.missing (.entry id)), { s with metrics := s.metrics.recordLookup false }, []⟩

/-- Counts and logs a disagreement of the tables. -/
def observe {α : Type} (s : ServiceStore) (result : Except Error α) : Step ServiceStore α :=
  match result with
  | .error (.inconsistent cause) =>
    ⟨result, { s with metrics := s.metrics.recordInconsistency }, [.serviceTablesDisagree cause]⟩
  | _ => ⟨result, s, []⟩

/-! ## Writing -/

/-- Stores a new registration and stamps it with the time. -/
def add (s : ServiceStore) (now : Instant) (service : Service) : Step ServiceStore Service :=
  match service.check with
  | .error e => s.reject e
  | .ok () =>
    match Expiry.expiryFor now service.ttl with
    | .error e => s.reject e
    | .ok expires =>
      let service := { service with created := now, updated := now, expires }
      if s.tables.data.contains service.id then
        s.reject (.invalid (.registrationExists service.id))
      else
        ⟨.ok service,
          { s with
            tables := { s.tables with data := s.tables.data.insert service.id service }.reindex
            metrics := s.metrics.recordAdd },
          [.serviceAdded service.id service.ttl]⟩

/-- Replaces a stored registration, all but its id and the time of its creation. -/
def update (s : ServiceStore) (now : Instant) (id : String) (service : Service) :
    Step ServiceStore Service :=
  match Expiry.expiryFor now service.ttl with
  | .error e => s.reject e
  | .ok expires =>
    match s.tables.data.get? id with
    | none => s.miss id
    | some stored =>
      let service := { service with
        id := stored.id, created := stored.created, updated := now, expires }
      ⟨.ok service,
        { s with
          tables := { s.tables with data := s.tables.data.insert id service }.reindex
          metrics := s.metrics.recordUpdate },
        [.serviceUpdated id service.ttl]⟩

/-- Takes a registration out and returns it as it was. -/
def delete (s : ServiceStore) (id : String) : Step ServiceStore Service :=
  match s.tables.data.get? id with
  | none => s.miss id
  | some service =>
    ⟨.ok service,
      { s with
        tables := { s.tables with data := s.tables.data.erase id }.reindex
        metrics := s.metrics.recordDelete },
      [.serviceDeleted id]⟩

/-- The ids of the registrations that are due for removal. -/
def expiredIds (s : ServiceStore) (now : Instant) : List String :=
  (s.tables.data.values.filter (·.isExpired now)).map (·.id)

/-- Removes all expired registrations. -/
def cleanExpired (s : ServiceStore) (now : Instant) : Swept ServiceStore :=
  let expired := s.expiredIds now
  if expired.isEmpty then ⟨0, s, []⟩
  else
    ⟨expired.length,
      { s with
        tables := { s.tables with data := expired.foldl Table.erase s.tables.data }.reindex
        metrics := s.metrics.recordExpired (UInt64.ofNat expired.length) },
      expired.map .serviceExpired ++ [.servicesRemoved expired.length]⟩

/-! ## Reading -/

def size (s : ServiceStore) : Nat :=
  s.tables.data.size

def get (s : ServiceStore) (id : String) : Step ServiceStore Service :=
  let found := s.tables.data.get? id
  ⟨match found with
    | some service => .ok service
    | none => .error (.missing (.entry id)),
    { s with metrics := s.metrics.recordLookup found.isSome }, []⟩

def getMany (s : ServiceStore) (page perPage : UInt64) : Step ServiceStore (Page Service) :=
  let s := { s with metrics := s.metrics.recordListing }
  let shown := s.observe
    ((Paging.window s.tables.index.keys page perPage s.maxPerPage).mapM s.tables.entry)
  ⟨shown.result.map (⟨·, s.size⟩), shown.store, shown.events⟩

/-- The first of the registrations that matches. -/
def firstMatch (s : ServiceStore) (q : Query) : List String → Step ServiceStore (Option Service)
  | [] => ⟨.ok none, s, []⟩
  | id :: rest =>
    let seen := s.observe (s.tables.entry id)
    match seen.result with
    | .error e => ⟨.error e, seen.store, seen.events⟩
    | .ok service =>
      match q.eval service.toJson with
      | .error e => ⟨.error e, s, []⟩
      | .ok true => ⟨.ok (some service), s, []⟩
      | .ok false => s.firstMatch q rest

/-- All of the registrations that match. -/
def allMatches (s : ServiceStore) (q : Query) : List String → Step ServiceStore (List Service)
  | [] => ⟨.ok [], s, []⟩
  | id :: rest =>
    let seen := s.observe (s.tables.entry id)
    match seen.result with
    | .error e => ⟨.error e, seen.store, seen.events⟩
    | .ok service =>
      match q.eval service.toJson with
      | .error e => ⟨.error e, s, []⟩
      | .ok hit =>
        let later := s.allMatches q rest
        { later with
          result := later.result.map fun services => if hit then service :: services else services }

def filterOne (s : ServiceStore) (path relation value : String) : Step ServiceStore Service :=
  match Query.parse path relation value with
  | .error e => ⟨.error e, s, []⟩
  | .ok q =>
    let s := { s with metrics := s.metrics.recordQuery }
    let found := s.firstMatch q s.tables.index.keys
    { found with
      result := match found.result with
        | .error e => .error e
        | .ok (some service) => .ok service
        | .ok none => .error (.missing (.matching .registration path relation value)) }

def filterMany (s : ServiceStore) (path relation value : String) (page perPage : UInt64) :
    Step ServiceStore (Page Service) :=
  match Query.parse path relation value with
  | .error e => ⟨.error e, s, []⟩
  | .ok q =>
    let s := { s with metrics := s.metrics.recordQuery }
    let found := s.allMatches q s.tables.index.keys
    { found with
      result := found.result.map fun matched =>
        ⟨Paging.window matched page perPage s.maxPerPage, matched.length⟩ }

def summary (s : ServiceStore) : String :=
  "ServiceStore \x7b registrations: " ++ toString s.size ++ ", config: "
    ++ storeConfigText s.maxPerPage ++ " \x7d"

instance : RecordStore ServiceStore Service where
  add := add
  update := update
  delete := delete
  get := get
  getMany := getMany
  filterOne := filterOne
  filterMany := filterMany
  cleanExpired := cleanExpired
  size := size
  metrics := metrics
  resetMetrics s := { s with metrics := {} }
  summary := summary

end ServiceStore

end EdgeCatalog
