import EdgeCatalog.Instant.Basic

/-! The proleptic Gregorian calendar: dates and the days counted from 1970-01-01. Years are counted
from March, so that a leap day is the last day of its year, and gathered into eras of 400. -/
namespace EdgeCatalog

structure Date where
  year : Int
  month : Nat
  day : Nat
  deriving DecidableEq

namespace Date

/-- Days of an era, and from its first day, 0000-03-01, to 1970-01-01. -/
def daysPerEra : Int := 146097
def daysToEpoch : Int := 719468

/-- Days from 1970-01-01 to a date. -/
def dayNumber (d : Date) : Int :=
  let year := if d.month ≤ 2 then d.year - 1 else d.year
  let yearOfEra := year % 400
  let dayOfYear : Int := (153 * ((d.month + 9) % 12) + 2) / 5 + d.day - 1
  year / 400 * daysPerEra + (yearOfEra * 365 + yearOfEra / 4 - yearOfEra / 100 + dayOfYear)
    - daysToEpoch

/-- The date a number of days after 1970-01-01. -/
def ofDayNumber (n : Int) : Date :=
  let dayOfEra := (n + daysToEpoch) % daysPerEra
  let yearOfEra := (dayOfEra - dayOfEra / 1460 + dayOfEra / 36524 - dayOfEra / 146096) / 365
  let dayOfYear := dayOfEra - (365 * yearOfEra + yearOfEra / 4 - yearOfEra / 100)
  let fromMarch := (5 * dayOfYear + 2) / 153
  let month := if fromMarch < 10 then fromMarch + 3 else fromMarch - 9
  let year := (n + daysToEpoch) / daysPerEra * 400 + yearOfEra
  let day := dayOfYear - (153 * fromMarch + 2) / 5 + 1
  ⟨if month ≤ 2 then year + 1 else year, month.toNat, day.toNat⟩

/-- Is there such a date? The calendar counts up to it and back. -/
def Exists (d : Date) : Prop :=
  ofDayNumber d.dayNumber = d

instance (d : Date) : Decidable d.Exists :=
  inferInstanceAs (Decidable (_ = _))

end Date

/-- Seconds in a day. -/
def Instant.perDay : Int := 86400

end EdgeCatalog
