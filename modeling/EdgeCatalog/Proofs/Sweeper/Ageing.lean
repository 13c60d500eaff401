import Mathlib
import EdgeCatalog.Proofs.Device.Lifetime
import EdgeCatalog.Proofs.Instant.Arithmetic
import EdgeCatalog.Proofs.Service.Lifetime
import EdgeCatalog.Proofs.Store.Write

/-! How the records of a store age. Both kinds of store have what a sweeper relies on
(`CallStore.Ages`): a record is put in only by a call that stores it, expires when its time to live
says, counted from the reading of the clock that the call took, and goes with a sweep that finds it
expired. So while the clock is never set back, nothing is stored that it has not reached yet
(`RecordStore.StampedBy`). -/
namespace EdgeCatalog

namespace Effect

variable {ε : Type} [Perishable ε] {m : Table ε} {id : String} {r : ε}

/-- What is found after an effect was there before, or was put in. -/
theorem get?_of_get?_apply {e : Effect ε} (h : (apply m e).get? id = some r) :
    m.get? id = some r ∨ e = .put id r := by
  cases e with
  | keep => exact .inl h
  | put other entry =>
    rw [apply, Table.get?_insert] at h
    split at h
    · rename_i hid
      rw [hid, Option.some.inj h]
      exact .inr rfl
    · exact .inl h
  | take other =>
    rw [apply, Table.get?_erase] at h
    split at h
    · cases h
    · exact .inl h
  | sweep now =>
    rw [apply, Table.get?_filter] at h
    exact .inl (Option.filter_eq_some_iff.mp h).1

theorem get?_apply_sweep {now : Instant} : (apply m (.sweep now)).get? id = some r ↔
    m.get? id = some r ∧ Expiry.isExpired (Perishable.ttl r) (Perishable.expires r) now = false := by
  rw [apply, Table.get?_filter, Option.filter_eq_some_iff, survives_singleton, Bool.not_eq_true']

end Effect

/-- What expires is due some time after it was stored. -/
theorem Expiry.exists_add?_eq {updated due : Instant} {ttl : Int64}
    (h : expiryFor updated ttl = .ok (some due)) :
    ∃ life : Int, 0 ≤ life ∧ updated.add? life = some due := by
  have hpos : 0 ≤ ttl := by
    rw [← Int64.not_lt]
    intro hneg
    cases expires_of_neg h hneg
  obtain ⟨due', hadd, hdue⟩ := expires_of_nonneg h hpos
  obtain rfl := Option.some.inj hdue
  exact ⟨ttl.toInt * Instant.perSecond,
    Int.mul_nonneg (Int64.le_iff_toInt_le.mp hpos) (Int.natCast_nonneg _),
    Instant.add?_of_addSeconds? hadd⟩

/-- A record that tells when it was last stored. -/
class Dated (ε : Type) where
  updated : ε → Instant

instance : Dated Device := ⟨Device.updated⟩

instance : Dated Service := ⟨Service.updated⟩

/-- The records of a store expire when their time to live says, counted from when they were stored,
and a sweep removes what has expired. -/
structure CallStore.Ages {σ κ ε : Type} [Perishable ε] [Dated ε] [CallStore σ κ ε]
    (valid : σ → Prop) (records : σ → Table ε) : Prop extends CallStore.Tracks valid records where
  swept : ∀ {s}, valid s → ∀ now, valid (RecordStore.cleanExpired s now).store ∧
    records (RecordStore.cleanExpired s now).store = Effect.apply (records s) (.sweep now)
  stamped : ∀ {s}, valid s → ∀ {c id r}, CallStore.effect s c = .put id r →
    ∃ operation now entry, CallStore.shared? σ c = some operation ∧ operation.Stores id now entry ∧
      Dated.updated r = now ∧
      Expiry.expiryFor now (Perishable.ttl r) = .ok (Perishable.expires r)
  storable : ∀ {s}, valid s → ∀ {id r}, (records s).get? id = some r →
    Expiry.expiryFor (Dated.updated r) (Perishable.ttl r) = .ok (Perishable.expires r)

theorem ServiceStore.ages : CallStore.Ages Reachable fun s => s.tables.data where
  toTracks := tracks
  swept hs now := ⟨hs.call (.cleanExpired now), tracks.records_call hs (.cleanExpired now)⟩
  stamped {s} hs {c id r} hput := by
    obtain ⟨now, entry, hstores⟩ := Operation.stores_of_effect (c := c) hput
    obtain ⟨httl, hupdated, hexpires⟩ := stamped_of_stores hs.stands hstores hput
    rw [← httl] at hexpires
    exact ⟨c, now, entry, rfl, hstores, hupdated, hexpires⟩
  storable {s} hs {id r} hr := (hs.stands.storable hr).expires

theorem DeviceStore.ages : CallStore.Ages Reachable contents where
  toTracks := tracks
  swept hs now :=
    ⟨hs.call (.record (.cleanExpired now)), tracks.records_call hs (.record (.cleanExpired now))⟩
  stamped {s} hs {c id r} hput := by
    cases c with
    | record operation =>
      obtain ⟨now, entry, hstores⟩ := Operation.stores_of_effect (c := operation) hput
      obtain ⟨httl, hupdated, hexpires⟩ := stamped_of_stores hs.stands hstores hput
      rw [← httl] at hexpires
      exact ⟨operation, now, entry, rfl, hstores, hupdated, hexpires⟩
    | resource command => cases hput
  storable {s} hs {id r} hr := (hs.stands.rows.storable hr).expires

/-! ## A clock that is never set back -/

/-- No record of the store was stored at a later reading of the clock than `now`. -/
def RecordStore.StampedBy {σ ε : Type} [RecordStore σ ε] [Dated ε] (s : σ) (now : Instant) : Prop :=
  ∀ id r, (RecordStore.get s id).result = .ok r → Dated.updated r ≤ now

/-- A call that stores something does so at a reading of the clock no later than `now`. -/
def CallStore.CalledBy (σ : Type) {κ ε : Type} [Perishable ε] [CallStore σ κ ε] (now : Instant)
    (c : κ) : Prop :=
  ∀ operation, shared? σ c = some operation →
    ∀ id reading entry, operation.Stores id reading entry → reading ≤ now

namespace RecordStore.StampedBy

variable {σ κ ε : Type} [Perishable ε] [Dated ε] [CallStore σ κ ε] {valid : σ → Prop}
  {records : σ → Table ε} {s : σ} {now : Instant}

theorem call (ages : CallStore.Ages (κ := κ) valid records) (hs : valid s) (h : StampedBy s now)
    {c : κ} (hc : CallStore.CalledBy σ now c) : StampedBy (CallStore.call s c) now := by
  intro id r hr
  rw [ages.get (ages.valid_call hs c), ages.records_call hs c] at hr
  rcases Effect.get?_of_get?_apply hr with hold | hput
  · exact h id r ((ages.get hs id r).mpr hold)
  · obtain ⟨operation, reading, entry, hshared, hstores, rfl, -⟩ := ages.stamped hs hput
    exact hc operation hshared id _ entry hstores

/-- As long as no call that stores something comes at a later reading, nothing is stamped later. -/
theorem run (ages : CallStore.Ages (κ := κ) valid records) (hs : valid s) (h : StampedBy s now)
    {calls : List κ} (hcalls : ∀ c ∈ calls, CallStore.CalledBy σ now c) :
    StampedBy (CallStore.run s calls) now := by
  induction calls generalizing s with
  | nil => exact h
  | cons c rest ih =>
    obtain ⟨hc, hrest⟩ := List.forall_mem_cons.mp hcalls
    exact ih (ages.valid_call hs c) (h.call ages hs hc) hrest

end RecordStore.StampedBy

end EdgeCatalog
