import Mathlib
import EdgeCatalog.Expiry

/-! When records expire. A time to live is refused only if the expiry is out of range; a record with
a negative one is never due, any other from the very instant of its expiry on. -/
namespace EdgeCatalog.Expiry

variable {updated now due : Instant} {ttl : Int64} {expires : Option Instant}

theorem expiryFor_error {e : Error} (h : expiryFor updated ttl = .error e) :
    e = .invalid (.ttlRange ttl.toInt) := by
  rw [expiryFor] at h
  split at h
  · cases h
  · split at h
    · cases h
    · exact (Except.error.inj h).symm

theorem expires_of_neg (h : expiryFor updated ttl = .ok expires) (hneg : ttl < 0) :
    expires = none := by
  rw [expiryFor, if_pos hneg] at h
  exact (Except.ok.inj h).symm

theorem expires_of_nonneg (h : expiryFor updated ttl = .ok expires) (hpos : 0 ≤ ttl) :
    ∃ due, updated.addSeconds? ttl.toInt = some due ∧ expires = some due := by
  rw [expiryFor, if_neg (Int64.not_lt.mpr hpos)] at h
  split at h
  · rename_i due hdue
    exact ⟨due, hdue, (Except.ok.inj h).symm⟩
  · cases h

theorem isExpired_some (hpos : 0 ≤ ttl) : isExpired ttl (some due) now = decide (due ≤ now) := by
  rw [isExpired, decide_eq_true hpos, Bool.true_and]

theorem isExpired_iff : isExpired ttl expires now = true ↔
    0 ≤ ttl ∧ ∃ due, expires = some due ∧ due ≤ now := by
  cases expires with
  | none => simp [isExpired]
  | some expiry => simp [isExpired]

end EdgeCatalog.Expiry
