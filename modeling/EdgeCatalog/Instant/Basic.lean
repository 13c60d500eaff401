/-! Instants of universal time, to the nanosecond, and the spans between them. The range is that of
the years -262143 to 262142 of the proleptic Gregorian calendar. -/
namespace EdgeCatalog

/-- The first representable second, counted from 1970-01-01T00:00:00Z. -/
def Instant.firstSecond : Int := -8334601228800

/-- The last representable second. -/
def Instant.lastSecond : Int := 8210266876799

/-- Nanoseconds in a second. -/
def Instant.perSecond : Nat := 1000000000

/-- A second, counted from 1970-01-01T00:00:00Z without leap seconds, and the time elapsed in it.
Inside a leap second, which belongs to the last second of a minute, more than a second has
elapsed. -/
structure Instant where
  second : Int
  nanos : Nat
  first_le : Instant.firstSecond ≤ second
  le_last : second ≤ Instant.lastSecond
  nanos_lt : nanos < 2 * Instant.perSecond
  /-- A leap second comes after second 59 of a minute. Those that chrono can put after any other
  second are left out: they are no instants of universal time. -/
  leap : Instant.perSecond ≤ nanos → second % 60 = 59
  deriving DecidableEq

namespace Instant

/-- The instant with the given parts, if there is one. -/
def make? (second : Int) (nanos : Nat) : Option Instant :=
  if h : firstSecond ≤ second ∧ second ≤ lastSecond ∧ nanos < 2 * perSecond
      ∧ (perSecond ≤ nanos → second % 60 = 59) then
    some ⟨second, nanos, h.1, h.2.1, h.2.2.1, h.2.2.2⟩
  else none

/-- 1970-01-01T00:00:00Z. -/
def epoch : Instant :=
  ⟨0, 0, by decide, by decide, by decide, by decide⟩

instance : Inhabited Instant := ⟨epoch⟩

/-- Is the instant inside a leap second? -/
def InLeapSecond (t : Instant) : Prop :=
  perSecond ≤ t.nanos

instance (t : Instant) : Decidable t.InLeapSecond :=
  inferInstanceAs (Decidable (_ ≤ _))

/-- Not after: by second, then by the time elapsed in it. -/
def le (a b : Instant) : Prop :=
  a.second < b.second ∨ a.second = b.second ∧ a.nanos ≤ b.nanos

instance : LE Instant := ⟨le⟩

instance (a b : Instant) : Decidable (a ≤ b) :=
  inferInstanceAs (Decidable (_ ∨ _))

instance : LT Instant := ⟨fun a b => ¬b ≤ a⟩

instance (a b : Instant) : Decidable (a < b) :=
  inferInstanceAs (Decidable (¬_))

/-- The instant `nanos` nanoseconds after the start of the given second. -/
def ofNanos? (second : Int) (nanos : Int) : Option Instant :=
  make? (second + nanos / perSecond) (nanos % perSecond).toNat

/-- The instant a span of nanoseconds later, or earlier for a negative one; `none` outside the
range. A leap second that the span leaves counts as nothing beyond the second it belongs to. -/
def add? (t : Instant) (span : Int) : Option Instant :=
  if t.InLeapSecond then
    if 2 * (perSecond : Int) ≤ t.nanos + span then
      ofNanos? t.second (t.nanos - perSecond + span)
    else if span ≤ -(perSecond : Int) then
      ofNanos? (t.second + 1) (t.nanos - perSecond + span)
    else make? t.second (t.nanos + span).toNat
  else ofNanos? t.second (t.nanos + span)

/-- The longest span in whole seconds: its milliseconds fit into 63 bits. -/
def maxSpanSeconds : Int := 9223372036854775

/-- The instant a number of seconds later. -/
def addSeconds? (t : Instant) (seconds : Int) : Option Instant :=
  if seconds.natAbs ≤ maxSpanSeconds then t.add? (seconds * perSecond) else none

end Instant

end EdgeCatalog
