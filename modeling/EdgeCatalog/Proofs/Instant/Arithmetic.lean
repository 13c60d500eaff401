import Mathlib
import EdgeCatalog.Instant.Basic

/-! Moving along the time line. A span that is not negative leads from an instant to a later one, or
out of the range; where it leads is settled by the seconds and the time elapsed
(`add?_eq_some_iff`), and all that is needed about order and addition follows from there. -/
namespace EdgeCatalog.Instant

variable {a b c : Instant} {d e : Int}

/-! ## Order -/

theorem le_iff : a ≤ b ↔ a.second < b.second ∨ a.second = b.second ∧ a.nanos ≤ b.nanos := Iff.rfl

theorem lt_iff : a < b ↔ a.second < b.second ∨ a.second = b.second ∧ a.nanos < b.nanos := by
  rw [show a < b ↔ ¬b ≤ a from Iff.rfl, le_iff]
  omega

instance : LinearOrder Instant where
  le_refl a := .inr ⟨rfl, Nat.le_refl _⟩
  le_trans a b c hab hbc := by
    rw [le_iff] at *
    omega
  lt_iff_le_not_ge a b := by
    rw [lt_iff, le_iff, le_iff]
    omega
  le_antisymm a b hab hba := by
    rw [le_iff] at hab hba
    have hsecond : a.second = b.second := by omega
    have hnanos : a.nanos = b.nanos := by omega
    cases a
    cases b
    cases hsecond
    cases hnanos
    rfl
  le_total a b := by
    rw [le_iff, le_iff]
    omega
  toDecidableLE := inferInstance

/-! ## Addition -/

/-- An instant is given by its parts. -/
theorem make?_eq_some_iff {second : Int} {nanos : Nat} :
    make? second nanos = some a ↔ a.second = second ∧ a.nanos = nanos := by
  constructor
  · intro h
    rw [make?] at h
    split at h
    · obtain rfl := Option.some.inj h
      exact ⟨rfl, rfl⟩
    · cases h
  · rintro ⟨rfl, rfl⟩
    rw [make?, dif_pos ⟨a.first_le, a.le_last, a.nanos_lt, a.leap⟩]

theorem ofNanos?_eq_some_iff {second nanos : Int} :
    ofNanos? second nanos = some a ↔ ¬a.InLeapSecond ∧
      a.second * perSecond + a.nanos = second * perSecond + nanos := by
  rw [ofNanos?, make?_eq_some_iff, InLeapSecond, perSecond]
  omega

/-- The instant with the given parts, which have to be those of one. -/
def of (second : Int) (nanos : Nat) (h : (make? second nanos).isSome = true := by decide) :
    Instant :=
  (make? second nanos).get h

/-- A span that is not negative leads within a leap second, or to an instant outside of leap
seconds; leaving a leap second, it counts from a second before. -/
theorem add?_eq_some_iff (hd : 0 ≤ d) : a.add? d = some b ↔
    a.InLeapSecond ∧ b.second = a.second ∧ (b.nanos : Int) = a.nanos + d ∨
    ¬b.InLeapSecond ∧ (a.InLeapSecond → a.second < b.second) ∧
      b.second * perSecond + b.nanos =
        a.second * perSecond + a.nanos - (if a.InLeapSecond then (perSecond : Int) else 0) + d := by
  have ha := a.nanos_lt
  have hb := b.nanos_lt
  by_cases hleap : a.InLeapSecond
  · rw [add?, if_pos hleap, if_pos hleap]
    by_cases hout : 2 * (perSecond : Int) ≤ a.nanos + d
    · rw [if_pos hout, ofNanos?_eq_some_iff]
      simp only [InLeapSecond, perSecond] at *
      omega
    · have hforth : ¬d ≤ -(perSecond : Int) := by
        rw [perSecond]
        omega
      rw [if_neg hout, if_neg hforth, make?_eq_some_iff]
      simp only [InLeapSecond, perSecond] at *
      omega
  · rw [add?, if_neg hleap, if_neg hleap, ofNanos?_eq_some_iff]
    simp only [InLeapSecond, perSecond] at *
    omega

theorem add?_zero (a : Instant) : a.add? 0 = some a := by
  rw [add?_eq_some_iff (Int.le_refl 0)]
  by_cases hleap : a.InLeapSecond
  · exact .inl ⟨hleap, rfl, by omega⟩
  · rw [if_neg hleap]
    exact .inr ⟨hleap, fun h => absurd h hleap, by omega⟩

theorem le_of_add? (hd : 0 ≤ d) (h : a.add? d = some b) : a ≤ b := by
  have ha := a.nanos_lt
  rw [add?_eq_some_iff hd] at h
  rw [le_iff]
  simp only [InLeapSecond, perSecond] at *
  omega

/-- Two spans one after the other lead where their sum leads. -/
theorem add?_add (hd : 0 ≤ d) (he : 0 ≤ e) (hb : a.add? d = some b) (hc : b.add? e = some c) :
    a.add? (d + e) = some c := by
  have ha := a.nanos_lt
  have hb' := b.nanos_lt
  rw [add?_eq_some_iff hd] at hb
  rw [add?_eq_some_iff he] at hc
  rw [add?_eq_some_iff (Int.add_nonneg hd he)]
  simp only [InLeapSecond, perSecond] at *
  omega

theorem add?_of_addSeconds? {seconds : Int} (h : a.addSeconds? seconds = some b) :
    a.add? (seconds * perSecond) = some b := by
  rw [addSeconds?] at h
  split at h
  · exact h
  · cases h

/-! ## Spans of either sign -/

/-- Nanoseconds since 1970-01-01T00:00:00Z. Outside of leap seconds they tell instants apart. -/
def sinceEpoch (t : Instant) : Int :=
  t.second * perSecond + t.nanos

/-- Is there an instant outside of leap seconds so many nanoseconds after 1970-01-01T00:00:00Z? -/
def InRange (nanos : Int) : Prop :=
  firstSecond * perSecond ≤ nanos ∧ nanos < (lastSecond + 1) * perSecond

instance (nanos : Int) : Decidable (InRange nanos) :=
  inferInstanceAs (Decidable (_ ∧ _))

theorem inRange_sinceEpoch (h : ¬a.InLeapSecond) : InRange a.sinceEpoch := by
  have hfirst := a.first_le
  have hlast := a.le_last
  simp only [InLeapSecond, InRange, sinceEpoch, perSecond] at *
  omega

theorem exists_sinceEpoch_eq {nanos : Int} (h : InRange nanos) :
    ∃ b : Instant, ¬b.InLeapSecond ∧ b.sinceEpoch = nanos := by
  simp only [InRange, perSecond] at h
  refine ⟨⟨nanos / perSecond, (nanos % perSecond).toNat, ?_, ?_, ?_, ?_⟩, ?_, ?_⟩ <;>
    simp only [InLeapSecond, sinceEpoch, perSecond] <;> omega

/-- From outside of a leap second a span of either sign leads exactly as far as it says, -/
theorem add?_eq_some_iff_sinceEpoch (h : ¬a.InLeapSecond) : a.add? d = some b ↔
    ¬b.InLeapSecond ∧ b.sinceEpoch = a.sinceEpoch + d := by
  rw [add?, if_neg h, ofNanos?_eq_some_iff, sinceEpoch, sinceEpoch, Int.add_assoc]

/-- and is refused just when it leads out of the range. -/
theorem add?_eq_none_iff_sinceEpoch (h : ¬a.InLeapSecond) :
    a.add? d = none ↔ ¬InRange (a.sinceEpoch + d) := by
  rw [Option.eq_none_iff_forall_ne_some]
  constructor
  · intro hnone hin
    obtain ⟨b, hb⟩ := exists_sinceEpoch_eq hin
    exact hnone b ((add?_eq_some_iff_sinceEpoch h).mpr hb)
  · intro hout b hsome
    obtain ⟨hb, heq⟩ := (add?_eq_some_iff_sinceEpoch h).mp hsome
    exact hout (heq ▸ inRange_sinceEpoch hb)

/-! ## Whole seconds -/

/-- The instant a number of whole seconds after another, with the same time elapsed in its second.
A leap second that is left is over, and a second of the time elapsed with it. -/
def IsAfter (b a : Instant) (seconds : Int) : Prop :=
  b.second = a.second + seconds ∧
    ((a.InLeapSecond ∧ seconds ≠ 0) ∧ b.nanos + perSecond = a.nanos ∨
      ¬(a.InLeapSecond ∧ seconds ≠ 0) ∧ b.nanos = a.nanos)

theorem isAfter_iff_of_not_inLeapSecond {seconds : Int} (h : ¬a.InLeapSecond) :
    b.IsAfter a seconds ↔ b.second = a.second + seconds ∧ b.nanos = a.nanos := by
  simp only [IsAfter, h, false_and, not_false_eq_true, true_and, false_or]

/-- No instant in range lies further off than the longest span, so that leaving the range is the
only way for an addition to fail. -/
theorem addSeconds?_eq_some_iff {seconds : Int} (h : 0 ≤ seconds) :
    a.addSeconds? seconds = some b ↔ b.IsAfter a seconds := by
  have ha := a.nanos_lt
  have hb := b.nanos_lt
  have hfirst := a.first_le
  have hlast := b.le_last
  rw [addSeconds?]
  by_cases hspan : seconds.natAbs ≤ maxSpanSeconds
  · rw [if_pos hspan, add?_eq_some_iff (Int.mul_nonneg h (Int.natCast_nonneg _))]
    simp only [IsAfter, InLeapSecond, perSecond] at *
    omega
  · have hfar : ¬b.IsAfter a seconds := by
      rw [IsAfter]
      simp only [maxSpanSeconds, firstSecond, lastSecond] at *
      omega
    rw [if_neg hspan]
    exact iff_of_false (Option.some_ne_none b).symm hfar

theorem exists_isAfter_iff {seconds : Int} (h : 0 ≤ seconds) :
    (∃ b : Instant, b.IsAfter a seconds) ↔ a.second + seconds ≤ lastSecond := by
  constructor
  · rintro ⟨b, hsecond, -⟩
    exact hsecond ▸ b.le_last
  · intro hlast
    have hfirst := a.first_le
    have hnanos := a.nanos_lt
    have hleap := a.leap
    by_cases hleft : a.InLeapSecond ∧ seconds ≠ 0
    · refine ⟨⟨a.second + seconds, a.nanos - perSecond, by omega, hlast, by omega, ?_⟩, rfl,
        .inl ⟨hleft, Nat.sub_add_cancel hleft.1⟩⟩
      omega
    · refine ⟨⟨a.second + seconds, a.nanos, by omega, hlast, hnanos, fun hin => ?_⟩, rfl,
        .inr ⟨hleft, rfl⟩⟩
      have hzero : seconds = 0 := Decidable.of_not_not fun hne => hleft ⟨hin, hne⟩
      rw [hzero, Int.add_zero]
      exact hleap hin

theorem addSeconds?_eq_none_iff {seconds : Int} (h : 0 ≤ seconds) :
    a.addSeconds? seconds = none ↔ lastSecond < a.second + seconds := by
  rw [Option.eq_none_iff_forall_ne_some, ← not_le, ← exists_isAfter_iff h, not_exists]
  exact forall_congr' fun b => not_congr (addSeconds?_eq_some_iff h)

theorem IsAfter.le (h : 0 ≤ d) (hb : b.IsAfter a d) : a ≤ b := by
  rw [le_iff]
  rw [IsAfter, perSecond] at hb
  omega

/-- More seconds lead at least as far. -/
theorem IsAfter.mono (hd : 0 ≤ d) (hde : d ≤ e) (hb : b.IsAfter a d) (hc : c.IsAfter a e) :
    b ≤ c := by
  rw [le_iff]
  simp only [IsAfter, InLeapSecond] at hb hc
  omega

/-- Seconds counted one span after the other are counted in one. -/
theorem isAfter_isAfter_iff (hd : 0 ≤ d) (he : 0 ≤ e) (hb : b.IsAfter a d) :
    c.IsAfter b e ↔ c.IsAfter a (d + e) := by
  have ha := a.nanos_lt
  simp only [IsAfter, InLeapSecond, perSecond] at *
  omega

/-! ## Leap seconds -/

/-- A clock that starts at `start` does not read any instant of the leap second in which `due`
lies. -/
def Skips (start due : Instant) : Prop :=
  due.InLeapSecond ∧ ¬(start.InLeapSecond ∧ start.second = due.second)

/-- What can be reached is not skipped. -/
theorem not_skips_of_add? (hd : 0 ≤ d) (h : a.add? d = some b) : ¬a.Skips b := by
  rintro ⟨hleap, hskip⟩
  rw [add?_eq_some_iff hd] at h
  rcases h with ⟨ha, hsecond, -⟩ | ⟨hb, -⟩
  · exact hskip ⟨ha, hsecond.symm⟩
  · exact hb hleap

/-- From an instant that is not later, and that goes through the same leap seconds, a shorter span
leads to an earlier instant. -/
theorem add?_lt_add? (hab : a ≤ b) (hskip : ¬a.Skips b) (hd : 0 ≤ d) (hde : d < e) {x y : Instant}
    (hx : a.add? d = some x) (hy : b.add? e = some y) : x < y := by
  have ha := a.nanos_lt
  have hb := b.nanos_lt
  have hy' := y.nanos_lt
  rw [add?_eq_some_iff hd] at hx
  rw [add?_eq_some_iff (by omega)] at hy
  rw [le_iff] at hab
  rw [lt_iff]
  simp only [Skips, InLeapSecond, perSecond] at *
  omega

/-- A clock that has passed the start does not skip what it does not skip from there. -/
theorem not_skips_of_le (hab : a ≤ b) (hbc : b ≤ c) (h : ¬a.Skips c) : ¬b.Skips c := by
  rw [le_iff] at hab hbc
  simp only [Skips, InLeapSecond, perSecond] at *
  omega

/-- The same with the end of the later second in the place of the later instant, whether or not that
lies in a leap second. -/
theorem add?_lt_ofNanos? (hab : a ≤ b) (hd : 0 ≤ d) (hde : d < e) {x y : Instant}
    (hx : a.add? d = some x) (hy : ofNanos? (b.second + 1) e = some y) : x < y := by
  have ha := a.nanos_lt
  have hx' := x.nanos_lt
  rw [add?_eq_some_iff hd] at hx
  rw [ofNanos?_eq_some_iff] at hy
  rw [le_iff] at hab
  rw [lt_iff]
  simp only [InLeapSecond, perSecond] at *
  omega

end EdgeCatalog.Instant
