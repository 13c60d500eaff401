import Mathlib
import EdgeCatalog.Proofs.Service.Simulation

/-! What a write to a service store comes to. Whether it is refused, and what is stored if it is
not, is settled by the tables before anything is changed; a write that is refused changes nothing
but the counters. -/
namespace EdgeCatalog

namespace ServiceTables

variable {t : ServiceTables} {now : Instant} {id : String} {service : Service} {e : Error}

/-- The registration that an addition stores, or why it is refused. -/
def admitted (t : ServiceTables) (now : Instant) (service : Service) : Except Error Service :=
  match service.check with
  | .error e => .error e
  | .ok () =>
    match Expiry.expiryFor now service.ttl with
    | .error e => .error e
    | .ok expires =>
      if t.data.contains service.id then .error (.invalid (.registrationExists service.id))
      else .ok (ServiceMap.stamped service.id now now expires service)

/-- The registration that an update stores, or why it is refused. -/
def amended (t : ServiceTables) (now : Instant) (id : String) (service : Service) :
    Except Error Service :=
  match Expiry.expiryFor now service.ttl with
  | .error e => .error e
  | .ok expires =>
    match t.data.get? id with
    | none => .error (.missing (.entry id))
    | some stored => .ok (ServiceMap.stamped stored.id stored.created now expires service)

theorem admitted_error (h : t.admitted now service = .error e) : ∃ cause, e = .invalid cause := by
  rw [admitted] at h
  split at h
  · rename_i fault hfault
    rw [← Except.error.inj h, Id.checkRecord_error hfault]
    exact ⟨_, rfl⟩
  · split at h
    · rename_i fault hfault
      rw [← Except.error.inj h, Expiry.expiryFor_error hfault]
      exact ⟨_, rfl⟩
    · split at h
      · exact ⟨_, (Except.error.inj h).symm⟩
      · cases h

/-- An update is refused because of its input, or because there is nothing to update. -/
theorem amended_error (h : t.amended now id service = .error e) :
    (∃ cause, e = .invalid cause) ∨ e = .missing (.entry id) := by
  rw [amended] at h
  split at h
  · rename_i fault hfault
    rw [← Except.error.inj h, Expiry.expiryFor_error hfault]
    exact .inl ⟨_, rfl⟩
  · split at h
    · exact .inr (Except.error.inj h).symm
    · cases h

end ServiceTables

namespace ServiceStore

variable (s : ServiceStore) (now : Instant)

/-- A write refused for either reason. -/
def refuse {α : Type} (e : Error) : Step ServiceStore α :=
  match e with
  | .missing (.entry id) => s.miss id
  | e => s.reject e

theorem add_eq (service : Service) :
    s.add now service = match s.tables.admitted now service with
      | .error e => s.reject e
      | .ok stored =>
        ⟨.ok stored,
          { s with
            tables := { s.tables with data := s.tables.data.insert stored.id stored }.reindex
            metrics := s.metrics.recordAdd },
          [.serviceAdded stored.id stored.ttl]⟩ := by
  rw [add, ServiceTables.admitted]
  cases service.check with
  | error e => rfl
  | ok _ =>
    dsimp only
    cases Expiry.expiryFor now service.ttl with
    | error e => rfl
    | ok expires =>
      dsimp only
      split <;> rfl

theorem update_eq (id : String) (service : Service) :
    s.update now id service = match s.tables.amended now id service with
      | .error e => s.refuse e
      | .ok stored =>
        ⟨.ok stored,
          { s with
            tables := { s.tables with data := s.tables.data.insert id stored }.reindex
            metrics := s.metrics.recordUpdate },
          [.serviceUpdated id stored.ttl]⟩ := by
  rw [update, ServiceTables.amended]
  cases hexpires : Expiry.expiryFor now service.ttl with
  | error e =>
    obtain rfl := Expiry.expiryFor_error hexpires
    rfl
  | ok expires =>
    dsimp only
    cases s.tables.data.get? id <;> rfl

end ServiceStore

end EdgeCatalog
