import Mathlib
import EdgeCatalog.Store.ServiceStore
import EdgeCatalog.Proofs.Id.Grammar
import EdgeCatalog.Proofs.Store.Operation
import EdgeCatalog.Proofs.Table

/-! The service store as a plain map from ids to registrations. Each operation is given by its
result and the map it leaves; there is no index here. -/
namespace EdgeCatalog.ServiceMap

/-- A registration as it is kept: under an id, with the time of its creation, the time of the last
update and the expiry. -/
def stamped (id : String) (created now : Instant) (expires : Option Instant) (service : Service) :
    Service :=
  { service with id, created, updated := now, expires }

variable (m : Table Service)

def add (now : Instant) (service : Service) : Except Error Service × Table Service :=
  if Id.IsRecord service.id then
    match Expiry.expiryFor now service.ttl with
    | .error _ => (.error (.invalid (.ttlRange service.ttl.toInt)), m)
    | .ok expires =>
      if m.contains service.id then (.error (.invalid (.registrationExists service.id)), m)
      else
        (.ok (stamped service.id now now expires service),
          m.insert service.id (stamped service.id now now expires service))
  else (.error (.invalid (.recordId service.id)), m)

def update (now : Instant) (id : String) (service : Service) :
    Except Error Service × Table Service :=
  match Expiry.expiryFor now service.ttl with
  | .error _ => (.error (.invalid (.ttlRange service.ttl.toInt)), m)
  | .ok expires =>
    match m.get? id with
    | none => (.error (.missing (.entry id)), m)
    | some old =>
      (.ok (stamped id old.created now expires service),
        m.insert id (stamped id old.created now expires service))

def delete (id : String) : Except Error Service × Table Service :=
  match m.get? id with
  | none => (.error (.missing (.entry id)), m)
  | some service => (.ok service, m.erase id)

/-- How many registrations have expired, and the map without them. -/
def cleanExpired (now : Instant) : Nat × Table Service :=
  ((m.filter (·.isExpired now)).size, m.filter (!·.isExpired now))

def get (id : String) : Except Error Service :=
  match m.get? id with
  | none => .error (.missing (.entry id))
  | some service => .ok service

/-- The map that a call leaves: only writing changes it. -/
def call : Operation Service → Table Service
  | .add now service => (add m now service).2
  | .update now id service => (update m now id service).2
  | .delete id => (delete m id).2
  | .cleanExpired now => (cleanExpired m now).2
  | _ => m

theorem get_eq_ok_iff {m : Table Service} {id : String} {service : Service} :
    get m id = .ok service ↔ m.get? id = some service := by
  rw [get]
  cases m.get? id <;> simp

/-! ## What writing can do -/

/-- An addition is refused, or puts the stamped registration in. -/
theorem add_cases (m : Table Service) (now : Instant) (service : Service) :
    (∃ e, add m now service = (.error e, m)) ∨
      ∃ expires, Expiry.expiryFor now service.ttl = .ok expires ∧
        add m now service = (.ok (stamped service.id now now expires service),
          m.insert service.id (stamped service.id now now expires service)) := by
  rw [add]
  by_cases hid : Id.IsRecord service.id
  · rw [if_pos hid]
    cases hexpires : Expiry.expiryFor now service.ttl with
    | error e => exact .inl ⟨_, rfl⟩
    | ok expires =>
      dsimp only
      by_cases hin : m.contains service.id = true
      · rw [if_pos hin]
        exact .inl ⟨_, rfl⟩
      · rw [if_neg hin]
        exact .inr ⟨expires, rfl, rfl⟩
  · rw [if_neg hid]
    exact .inl ⟨_, rfl⟩

/-- An update is refused, or puts the stamped registration in the place of the old one. -/
theorem update_cases (m : Table Service) (now : Instant) (id : String) (service : Service) :
    (∃ e, update m now id service = (.error e, m)) ∨
      ∃ expires old, Expiry.expiryFor now service.ttl = .ok expires ∧ m.get? id = some old ∧
        update m now id service = (.ok (stamped id old.created now expires service),
          m.insert id (stamped id old.created now expires service)) := by
  rw [update]
  cases hexpires : Expiry.expiryFor now service.ttl with
  | error e => exact .inl ⟨_, rfl⟩
  | ok expires =>
    dsimp only
    cases hold : m.get? id with
    | none => exact .inl ⟨_, rfl⟩
    | some old => exact .inr ⟨expires, old, rfl, rfl, rfl⟩

/-- A deletion is refused, or takes the registration out. -/
theorem delete_cases (m : Table Service) (id : String) :
    (∃ e, delete m id = (.error e, m)) ∨
      ∃ service, m.get? id = some service ∧ delete m id = (.ok service, m.erase id) := by
  rw [delete]
  cases m.get? id with
  | none => exact .inl ⟨_, rfl⟩
  | some service => exact .inr ⟨service, rfl, rfl⟩

end EdgeCatalog.ServiceMap
