import Mathlib
import EdgeCatalog.Metrics

/-! Counters that are added up. Counting anything adds an amount that depends on what is counted and
not on what was counted before. -/
namespace EdgeCatalog.Metrics

instance : Add Metrics where
  add m k := {
    adds := m.adds + k.adds
    updates := m.updates + k.updates
    deletes := m.deletes + k.deletes
    expired := m.expired + k.expired
    rejected := m.rejected + k.rejected
    lookups := m.lookups + k.lookups
    misses := m.misses + k.misses
    listings := m.listings + k.listings
    queries := m.queries + k.queries
    inconsistencies := m.inconsistencies + k.inconsistencies }

instance : Zero Metrics := ⟨{}⟩

theorem add_def (m k : Metrics) : m + k = {
    adds := m.adds + k.adds
    updates := m.updates + k.updates
    deletes := m.deletes + k.deletes
    expired := m.expired + k.expired
    rejected := m.rejected + k.rejected
    lookups := m.lookups + k.lookups
    misses := m.misses + k.misses
    listings := m.listings + k.listings
    queries := m.queries + k.queries
    inconsistencies := m.inconsistencies + k.inconsistencies } := rfl

theorem zero_def : (0 : Metrics) = {} := rfl

instance : AddCommMonoid Metrics where
  add_assoc a b c := by simp only [add_def, UInt64.add_assoc]
  zero_add a := by simp only [add_def, zero_def, UInt64.zero_add]
  add_zero a := by simp only [add_def, zero_def, UInt64.add_zero]
  add_comm a b := by simp only [add_def, UInt64.add_comm]
  nsmul := nsmulRec

/-- Words wrap, so any counters may come of any others by adding to them. -/
theorem exists_add_eq (m m' : Metrics) : ∃ k, m + k = m' := by
  refine ⟨{
    adds := m'.adds - m.adds
    updates := m'.updates - m.updates
    deletes := m'.deletes - m.deletes
    expired := m'.expired - m.expired
    rejected := m'.rejected - m.rejected
    lookups := m'.lookups - m.lookups
    misses := m'.misses - m.misses
    listings := m'.listings - m.listings
    queries := m'.queries - m.queries
    inconsistencies := m'.inconsistencies - m.inconsistencies }, ?_⟩
  have hback (a b : UInt64) : a + (b - a) = b := by
    rw [UInt64.add_comm, UInt64.sub_add_cancel]
  simp only [add_def, hback]

/-! ## What counting adds -/

variable (m : Metrics)

theorem recordAdd_eq : m.recordAdd = m + { adds := 1 } := by
  simp only [recordAdd, add_def, UInt64.add_zero]

theorem recordUpdate_eq : m.recordUpdate = m + { updates := 1 } := by
  simp only [recordUpdate, add_def, UInt64.add_zero]

theorem recordDelete_eq : m.recordDelete = m + { deletes := 1 } := by
  simp only [recordDelete, add_def, UInt64.add_zero]

theorem recordExpired_eq (count : UInt64) : m.recordExpired count = m + { expired := count } := by
  simp only [recordExpired, add_def, UInt64.add_zero]

theorem recordRejected_eq : m.recordRejected = m + { rejected := 1 } := by
  simp only [recordRejected, add_def, UInt64.add_zero]

theorem recordLookup_eq (found : Bool) :
    m.recordLookup found = m + { lookups := 1, misses := if found then 0 else 1 } := by
  cases found <;>
    simp only [recordLookup, add_def, UInt64.add_zero, if_true, Bool.false_eq_true, if_false]

theorem recordListing_eq : m.recordListing = m + { listings := 1 } := by
  simp only [recordListing, add_def, UInt64.add_zero]

theorem recordQuery_eq : m.recordQuery = m + { queries := 1 } := by
  simp only [recordQuery, add_def, UInt64.add_zero]

theorem recordInconsistency_eq : m.recordInconsistency = m + { inconsistencies := 1 } := by
  simp only [recordInconsistency, add_def, UInt64.add_zero]

end EdgeCatalog.Metrics
