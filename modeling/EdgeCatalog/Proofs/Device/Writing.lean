import Mathlib
import EdgeCatalog.Proofs.Device.Run
import EdgeCatalog.Proofs.Expiry

/-! What a write to a device store comes to. Whether it is refused, and what is stored if it is not,
is settled by the tables before anything is changed; a write that is refused changes nothing but the
counters. -/
namespace EdgeCatalog

namespace DeviceTables

open DeviceStore (own)

variable {t : DeviceTables} {now : Instant} {id : String} {d : Device} {e : Error}

theorem checkResources_error {owner : String} {seen : List String} {resources : List Resource}
    (h : t.checkResources owner seen resources = .error e) : ∃ cause, e = .invalid cause := by
  induction resources generalizing seen with
  | nil => cases h
  | cons r rest ih =>
    rw [checkResources] at h
    split at h
    · rename_i fault hfault
      rw [← Except.error.inj h, Id.checkResource_error hfault]
      exact ⟨_, rfl⟩
    · split at h
      · exact ⟨_, (Except.error.inj h).symm⟩
      · split at h
        · split at h
          · exact ⟨_, (Except.error.inj h).symm⟩
          · exact ih h
        · exact ih h

/-- The device that an addition stores, or why it is refused. -/
def admitted (t : DeviceTables) (now : Instant) (d : Device) : Except Error Device :=
  match Id.checkRecord d.id with
  | .error e => .error e
  | .ok () =>
    match Expiry.expiryFor now d.ttl with
    | .error e => .error e
    | .ok expires =>
      if t.devices.contains d.id then .error (.invalid (.deviceExists d.id))
      else match t.checkResources d.id [] (own d.id d.resources) with
        | .error e => .error e
        | .ok () => .ok (DeviceMap.stamped d.id now now expires d)

/-- The device that an update stores, or why it is refused. -/
def amended (t : DeviceTables) (now : Instant) (id : String) (d : Device) : Except Error Device :=
  -- the shape of the id is not checked: an id of another shape is not stored
  match Expiry.expiryFor now d.ttl with
  | .error e => .error e
  | .ok expires =>
    match t.devices.get? id with
    | none => .error (.missing (.entry id))
    | some stored =>
      match t.checkResources id [] (own id d.resources) with
      | .error e => .error e
      | .ok () => .ok (DeviceMap.stamped id stored.device.created now expires d)

theorem admitted_error (h : t.admitted now d = .error e) : ∃ cause, e = .invalid cause := by
  rw [admitted] at h
  split at h
  · rename_i fault hfault
    rw [← Except.error.inj h, Id.checkRecord_error hfault]
    exact ⟨_, rfl⟩
  · split at h
    · rename_i fault hfault
      rw [← Except.error.inj h, Expiry.expiryFor_error hfault]
      exact ⟨_, rfl⟩
    · split at h
      · exact ⟨_, (Except.error.inj h).symm⟩
      · split at h
        · rename_i fault hfault
          rw [← Except.error.inj h]
          exact checkResources_error hfault
        · cases h

/-- An update is refused because of its input, or because there is nothing to update. -/
theorem amended_error (h : t.amended now id d = .error e) :
    (∃ cause, e = .invalid cause) ∨ e = .missing (.entry id) := by
  rw [amended] at h
  split at h
  · rename_i fault hfault
    rw [← Except.error.inj h, Expiry.expiryFor_error hfault]
    exact .inl ⟨_, rfl⟩
  · split at h
    · exact .inr (Except.error.inj h).symm
    · split at h
      · rename_i fault hfault
        rw [← Except.error.inj h]
        exact .inl (checkResources_error hfault)
      · cases h

end DeviceTables

namespace DeviceStore

variable (s : DeviceStore) (now : Instant)

/-- A write refused for either reason. -/
def refuse {α : Type} (e : Error) : Step DeviceStore α :=
  match e with
  | .missing (.entry id) => s.miss id
  | e => s.reject e

/-- The tables with a device in place of any under its id. -/
def replaced (t : DeviceTables) (d : Device) : DeviceTables :=
  ((match t.remove d.id with
    | some (_, rest) => rest
    | none => t).insert d).reindex

theorem add_eq (d : Device) :
    s.add now d = match s.tables.admitted now d with
      | .error e => s.reject e
      | .ok stored =>
        ⟨.ok stored,
          { s with tables := (s.tables.insert stored).reindex, metrics := s.metrics.recordAdd },
          [.deviceAdded stored.id stored.resources.length stored.ttl]⟩ := by
  rw [add, DeviceTables.admitted]
  cases Id.checkRecord d.id with
  | error e => rfl
  | ok _ =>
    dsimp only
    cases Expiry.expiryFor now d.ttl with
    | error e => rfl
    | ok expires =>
      dsimp only
      split
      · rfl
      · cases s.tables.checkResources d.id [] (own d.id d.resources) <;> rfl

theorem update_eq (id : String) (d : Device) :
    s.update now id d = match s.tables.amended now id d with
      | .error e => s.refuse e
      | .ok stored =>
        ⟨.ok stored,
          { s with tables := replaced s.tables stored, metrics := s.metrics.recordUpdate },
          [.deviceUpdated id stored.resources.length stored.ttl]⟩ := by
  rw [update, DeviceTables.amended]
  cases hexpires : Expiry.expiryFor now d.ttl with
  | error e =>
    -- it is invalid, so the refusal is a rejection
    obtain rfl := Expiry.expiryFor_error hexpires
    rfl
  | ok expires =>
    dsimp only
    cases s.tables.devices.get? id with
    | none => rfl
    | some stored =>
      dsimp only
      cases hcheck : s.tables.checkResources id [] (own id d.resources) with
      | error e =>
        obtain ⟨cause, rfl⟩ := DeviceTables.checkResources_error hcheck
        rfl
      | ok _ => rfl

end DeviceStore

end EdgeCatalog
