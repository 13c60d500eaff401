import Mathlib
import EdgeCatalog.Proofs.Expiry
import EdgeCatalog.Proofs.Instant.Arithmetic

/-! Expiries over the whole range. A time to live that is not negative is refused only when no
instant lies that many seconds later, whichever of the two range checks it fails; what is granted is
that very instant. That longer times to live expire later, and that they add up, follows from there
(`Instant.IsAfter.mono`, `Instant.isAfter_isAfter_iff`). -/
namespace EdgeCatalog.Expiry

variable {updated due : Instant} {ttl shorter longer first second both : Int64}

theorem expiryFor_of_neg (updated : Instant) (h : ttl < 0) : expiryFor updated ttl = .ok none := by
  rw [expiryFor, if_pos h]

theorem expiryFor_eq_some_iff (h : 0 ≤ ttl) :
    expiryFor updated ttl = .ok (some due) ↔ due.IsAfter updated ttl.toInt := by
  rw [expiryFor, if_neg (Int64.not_lt.mpr h),
    ← Instant.addSeconds?_eq_some_iff (Int64.le_iff_toInt_le.mp h)]
  cases updated.addSeconds? ttl.toInt <;> simp

theorem expiryFor_eq_error_iff (h : 0 ≤ ttl) :
    expiryFor updated ttl = .error (.invalid (.ttlRange ttl.toInt)) ↔
      Instant.lastSecond < updated.second + ttl.toInt := by
  rw [expiryFor, if_neg (Int64.not_lt.mpr h),
    ← Instant.addSeconds?_eq_none_iff (Int64.le_iff_toInt_le.mp h)]
  cases updated.addSeconds? ttl.toInt <;> simp

/-- A time to live that is shorter is granted with a longer one, and expires no later. -/
theorem exists_expiryFor_of_le (hpos : 0 ≤ shorter) (hle : shorter ≤ longer)
    (h : expiryFor updated longer = .ok (some due)) :
    ∃ earlier, expiryFor updated shorter = .ok (some earlier) ∧ updated ≤ earlier ∧
      earlier ≤ due := by
  have hshorter : 0 ≤ shorter.toInt := Int64.le_iff_toInt_le.mp hpos
  have htoInt : shorter.toInt ≤ longer.toInt := Int64.le_iff_toInt_le.mp hle
  have hdue := (expiryFor_eq_some_iff (Int64.le_trans hpos hle)).mp h
  have hlast := (Instant.exists_isAfter_iff (Int.le_trans hshorter htoInt)).mp ⟨due, hdue⟩
  obtain ⟨earlier, hearlier⟩ :=
    (Instant.exists_isAfter_iff (a := updated) hshorter).mpr (by omega)
  exact ⟨earlier, (expiryFor_eq_some_iff hpos).mpr hearlier, hearlier.le hshorter,
    hearlier.mono hshorter htoInt hdue⟩

/-- The time to live that is left counts from the expiry of the first as it counts on. -/
theorem expiryFor_expiryFor (hfirst : 0 ≤ first) (hsecond : 0 ≤ second)
    (hboth : both.toInt = first.toInt + second.toInt)
    (h : expiryFor updated first = .ok (some due)) :
    (∃ last, expiryFor due second = .ok (some last) ∧ expiryFor updated both = .ok (some last)) ∨
    expiryFor due second = .error (.invalid (.ttlRange second.toInt)) ∧
      expiryFor updated both = .error (.invalid (.ttlRange both.toInt)) := by
  have hfirst' : 0 ≤ first.toInt := Int64.le_iff_toInt_le.mp hfirst
  have hsecond' : 0 ≤ second.toInt := Int64.le_iff_toInt_le.mp hsecond
  have hpos : 0 ≤ both := Int64.le_iff_toInt_le.mpr (by
    rw [hboth]
    exact Int.add_nonneg hfirst' hsecond')
  have hdue := (expiryFor_eq_some_iff hfirst).mp h
  by_cases hlast : due.second + second.toInt ≤ Instant.lastSecond
  · obtain ⟨later, hlater⟩ := (Instant.exists_isAfter_iff hsecond').mpr hlast
    refine .inl ⟨later, (expiryFor_eq_some_iff hsecond).mpr hlater,
      (expiryFor_eq_some_iff hpos).mpr ?_⟩
    rw [hboth]
    exact (Instant.isAfter_isAfter_iff hfirst' hsecond' hdue).mp hlater
  · refine .inr ⟨(expiryFor_eq_error_iff hsecond).mpr (not_le.mp hlast),
      (expiryFor_eq_error_iff hpos).mpr ?_⟩
    have hstart := hdue.1
    omega

/-- What expiries from an instant are, for every time to live. -/
structure Exact (t : Instant) : Prop where
  /-- With a negative time to live a record never expires. -/
  never : ∀ ttl : Int64, ttl < 0 → expiryFor t ttl = .ok none
  /-- Any other expires exactly so many seconds later. -/
  granted : ∀ ttl : Int64, 0 ≤ ttl → ∀ u,
    expiryFor t ttl = .ok (some u) ↔ u.IsAfter t ttl.toInt
  /-- Outside of leap seconds that is: in the same part of a later second. -/
  outside : ¬t.InLeapSecond → ∀ ttl : Int64, 0 ≤ ttl → ∀ u,
    expiryFor t ttl = .ok (some u) ↔ u.second = t.second + ttl.toInt ∧ u.nanos = t.nanos
  /-- It is refused just when there is no such instant, -/
  refused : ∀ ttl : Int64, 0 ≤ ttl →
    (expiryFor t ttl = .error (.invalid (.ttlRange ttl.toInt)) ↔
      ¬∃ u, Instant.IsAfter u t ttl.toInt)
  /-- and that is past the last second of the range, also where the span itself is too long. -/
  outOfRange : ∀ ttl : Int64, 0 ≤ ttl →
    ((¬∃ u, Instant.IsAfter u t ttl.toInt) ↔
      Instant.maxSpanSeconds < ttl.toInt ∨ Instant.lastSecond < t.second + ttl.toInt)
  /-- Past the check of the span, neither its milliseconds nor the sum of the seconds leaves the
  signed words of 64 bits. -/
  fits : ∀ ttl : Int64, 0 ≤ ttl → ttl.toInt ≤ Instant.maxSpanSeconds →
    ttl.toInt * 1000 ≤ Int64.maxValue.toInt ∧
    Int64.minValue.toInt ≤ t.second + ttl.toInt ∧ t.second + ttl.toInt ≤ Int64.maxValue.toInt
  /-- A shorter time to live is granted with a longer one, and expires no later. -/
  grows : ∀ a b : Int64, 0 ≤ a → a ≤ b → ∀ y, expiryFor t b = .ok (some y) →
    ∃ x, expiryFor t a = .ok (some x) ∧ t ≤ x ∧ x ≤ y
  /-- Times to live one after the other expire with their sum, or both do not. -/
  adds : ∀ a b c : Int64, 0 ≤ a → 0 ≤ b → c.toInt = a.toInt + b.toInt →
    ∀ u, expiryFor t a = .ok (some u) →
      (∃ v, expiryFor u b = .ok (some v) ∧ expiryFor t c = .ok (some v)) ∨
      expiryFor u b = .error (.invalid (.ttlRange b.toInt)) ∧
        expiryFor t c = .error (.invalid (.ttlRange c.toInt))

/-- Expiries are exact from every instant, for every time to live. -/
theorem expiry_exact (t : Instant) : Exact t where
  never ttl hneg := expiryFor_of_neg t hneg
  granted ttl hpos u := expiryFor_eq_some_iff hpos
  outside hleap ttl hpos u := by
    rw [expiryFor_eq_some_iff hpos, Instant.isAfter_iff_of_not_inLeapSecond hleap]
  refused ttl hpos := by
    rw [expiryFor_eq_error_iff hpos, Instant.exists_isAfter_iff (Int64.le_iff_toInt_le.mp hpos),
      not_le]
  outOfRange ttl hpos := by
    have hfirst := t.first_le
    rw [Instant.exists_isAfter_iff (Int64.le_iff_toInt_le.mp hpos), not_le]
    simp only [Instant.maxSpanSeconds, Instant.firstSecond, Instant.lastSecond] at *
    omega
  fits ttl hpos hspan := by
    have hfirst := t.first_le
    have hlast := t.le_last
    have hpos' : 0 ≤ ttl.toInt := Int64.le_iff_toInt_le.mp hpos
    rw [show Int64.maxValue.toInt = 9223372036854775807 from rfl,
      show Int64.minValue.toInt = -9223372036854775808 from rfl]
    simp only [Instant.maxSpanSeconds, Instant.firstSecond, Instant.lastSecond] at *
    omega
  grows a b hpos hle y hy := exists_expiryFor_of_le hpos hle hy
  adds a b c ha hb hc u hu := expiryFor_expiryFor ha hb hc hu

/-- In the middle of a leap second. -/
example : expiryFor (.of 1483228799 1500000000) 1 = .ok (some (.of 1483228800 500000000)) := rfl

end EdgeCatalog.Expiry
