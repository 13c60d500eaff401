import Mathlib
import EdgeCatalog.Instant.Calendar

/-! The calendar counts days without a gap: the date of a day has that day's number, and its month
and day are written with two digits. The years of an era are found by a division by 365, after the
leap days that it must not count have been taken off; that these are the right ones is
`yearOfEra_bounds`. -/
namespace EdgeCatalog.Date

variable {day year : Int}

/-! ## Years -/

/-- There are no more leap years up to a year than stretches of four years are over. -/
theorem fours_le (h0 : 0 ≤ day)
    (hy : year * 365 ≤ day - day / 1460 + day / 36524 - day / 146096) :
    year / 4 ≤ day / 1460 := by
  omega

/-- As many of them fall away as centuries are over, but for the last day of the era. -/
theorem centuries_le (h0 : 0 ≤ day) (h1 : day < 146097)
    (hy : day - day / 1460 + day / 36524 - day / 146096 < year * 365 + 365) :
    day / 36524 - day / 146096 ≤ year / 100 := by
  omega

/-- The year of a day of an era, and the place of the day in it. -/
theorem yearOfEra_bounds (h0 : 0 ≤ day) (h1 : day < 146097)
    (hy : (day - day / 1460 + day / 36524 - day / 146096) / 365 = year) :
    (0 ≤ year ∧ year < 400) ∧ 0 ≤ day - (365 * year + year / 4 - year / 100) ∧
      day - (365 * year + year / 4 - year / 100) ≤ 366 := by
  have hlow : year * 365 ≤ day - day / 1460 + day / 36524 - day / 146096 := by omega
  have hhigh : day - day / 1460 + day / 36524 - day / 146096 < year * 365 + 365 := by omega
  have hfours := fours_le h0 hlow
  have hcenturies := centuries_le h0 h1 hhigh
  refine ⟨⟨?_, ?_⟩, ?_, ?_⟩
  · clear hfours hcenturies hlow hy
    omega
  · clear hfours hcenturies hhigh hy
    omega
  · omega
  · clear hfours hcenturies hlow hy
    omega

/-! ## Dates -/

/-- The number of a day whose year and month are counted from March. -/
theorem dayNumber_of_march (era : Int) {fromMarch : Int} (hy : 0 ≤ year ∧ year < 400)
    (hm : 0 ≤ fromMarch ∧ fromMarch ≤ 11) (day : Nat) :
    let month := if fromMarch < 10 then fromMarch + 3 else fromMarch - 9
    dayNumber ⟨if month ≤ 2 then era * 400 + year + 1 else era * 400 + year, month.toNat, day⟩ =
      era * daysPerEra + (year * 365 + year / 4 - year / 100) + (153 * fromMarch + 2) / 5 + day - 1
        - daysToEpoch := by
  intro month
  have hmonth : ((month.toNat + 9) % 12 : Nat) = fromMarch ∧ (month.toNat ≤ 2 ↔ month ≤ 2) := by
    simp only [month]
    split <;> omega
  obtain ⟨hback, hle⟩ := hmonth
  have hyear : (if month.toNat ≤ 2 then
      (if month ≤ 2 then era * 400 + year + 1 else era * 400 + year) - 1
      else if month ≤ 2 then era * 400 + year + 1 else era * 400 + year) = era * 400 + year := by
    split <;> split <;> omega
  have hofEra : (era * 400 + year) % 400 = year ∧ (era * 400 + year) / 400 = era := by omega
  simp only [dayNumber, hyear]
  push_cast at hback ⊢
  rw [hback, hofEra.1, hofEra.2]
  omega

/-- Counting the days of a date leads back to it. -/
theorem dayNumber_ofDayNumber (n : Int) : (ofDayNumber n).dayNumber = n := by
  have hsplit : (n + daysToEpoch) / daysPerEra * daysPerEra + (n + daysToEpoch) % daysPerEra
      = n + daysToEpoch := Int.ediv_mul_add_emod _ _
  have h0 : 0 ≤ (n + daysToEpoch) % daysPerEra := Int.emod_nonneg _ (by decide)
  have h1 : (n + daysToEpoch) % daysPerEra < 146097 := Int.emod_lt_of_pos _ (by decide)
  simp only [ofDayNumber]
  generalize (n + daysToEpoch) / daysPerEra = era at *
  generalize (n + daysToEpoch) % daysPerEra = day at *
  generalize hyear : (day - day / 1460 + day / 36524 - day / 146096) / 365 = year
  obtain ⟨hy, hfirst, hlast⟩ := yearOfEra_bounds h0 h1 hyear
  clear hyear
  generalize hofYear : day - (365 * year + year / 4 - year / 100) = ofYear at *
  generalize hmarch : (5 * ofYear + 2) / 153 = fromMarch
  have hm : 0 ≤ fromMarch ∧ fromMarch ≤ 11 := by omega
  have hday : ((ofYear - (153 * fromMarch + 2) / 5 + 1).toNat : Int)
      = ofYear - (153 * fromMarch + 2) / 5 + 1 := by omega
  have hnumber := dayNumber_of_march era hy hm (ofYear - (153 * fromMarch + 2) / 5 + 1).toNat
  dsimp only at hnumber
  rw [hnumber, hday]
  omega

theorem exists_ofDayNumber (n : Int) : (ofDayNumber n).Exists := by
  rw [Exists, dayNumber_ofDayNumber]

theorem month_day_bounds (n : Int) :
    (1 ≤ (ofDayNumber n).month ∧ (ofDayNumber n).month ≤ 12) ∧
      1 ≤ (ofDayNumber n).day ∧ (ofDayNumber n).day ≤ 31 := by
  have h0 : 0 ≤ (n + daysToEpoch) % daysPerEra := Int.emod_nonneg _ (by decide)
  have h1 : (n + daysToEpoch) % daysPerEra < 146097 := Int.emod_lt_of_pos _ (by decide)
  simp only [ofDayNumber]
  generalize (n + daysToEpoch) % daysPerEra = day at *
  generalize hyear : (day - day / 1460 + day / 36524 - day / 146096) / 365 = year
  obtain ⟨-, hfirst, hlast⟩ := yearOfEra_bounds h0 h1 hyear
  clear hyear
  generalize day - (365 * year + year / 4 - year / 100) = ofYear at *
  generalize hmarch : (5 * ofYear + 2) / 153 = fromMarch
  refine ⟨?_, by omega⟩
  split <;> omega

end EdgeCatalog.Date
