import Mathlib
import EdgeCatalog.Instant.Text
import EdgeCatalog.Proofs.Instant.Calendar

/-! An instant is read back from its text (`Instant.ofText?_text`): with a fraction of any width, in
a leap second, and in a year of any sign and length. Every part of the text is read off the front of
what is left, so each reader has a lemma on a written part with anything behind it that does not
begin with one more digit. -/
namespace EdgeCatalog

/-! ## Digits -/

theorem Text.isBlank_of_isDigit {c : Char} (h : c.isDigit = true) : isBlank c = false := by
  have hc : 48 ≤ c.toNat ∧ c.toNat ≤ 57 := by
    simpa [Char.isDigit, UInt32.le_iff_toNat_le] using h
  simp [isBlank, blankRanges, Ranges.contains]
  omega

theorem Text.skipBlanks_cons {c : Char} (h : isBlank c = false) (cs : List Char) :
    skipBlanks (c :: cs) = c :: cs := by
  simp [skipBlanks, h]

namespace Decimal

theorem digitsValue_map (cs : List Char) :
    digitsValue (cs.map fun c => c.toNat - 48) = Nat.ofDigitChars 10 cs 0 := by
  simp [digitsValue, Nat.ofDigitChars, List.foldl_map, Nat.mul_comm]

theorem digitsValue_append_zeros (digits : List Nat) (count : Nat) :
    digitsValue (digits ++ List.replicate count 0) = digitsValue digits * 10 ^ count := by
  induction count with
  | zero => simp
  | succ count ih =>
    rw [List.replicate_succ', ← List.append_assoc, digitsValue, List.foldl_append, ← digitsValue, ih]
    simp [Nat.pow_succ, Nat.mul_assoc]

/-- Digits are taken up to the first character that is none. -/
theorem takeDigits_append {cs rest : List Char} (hcs : ∀ c ∈ cs, c.isDigit = true)
    (hrest : ∀ c ∈ rest.head?, c.isDigit = false) :
    takeDigits (cs ++ rest) = (cs.map fun c => c.toNat - 48, rest) := by
  induction cs with
  | nil =>
    cases rest with
    | nil => rfl
    | cons c rest => simp [takeDigits, digit?, hrest c rfl]
  | cons c cs ih =>
    have hc := hcs c (by simp)
    have ih := ih fun d hd => hcs d (by simp [hd])
    simp [takeDigits, digit?, hc, ih]

end Decimal

namespace Instant

open Decimal Text

variable {width n : Nat} {rest : List Char}

/-! ## Numbers -/

theorem isDigit_of_mem_padded {c : Char} (h : c ∈ padded width n) : c.isDigit = true := by
  rcases List.mem_append.mp h with h | h
  · rw [(List.mem_replicate.mp h).2]
    rfl
  · exact Nat.isDigit_of_mem_toDigits (by decide) (by decide) h

theorem padded_ne_nil (width n : Nat) : padded width n ≠ [] := by
  simp [padded, Nat.toDigits_ne_nil]

theorem length_padded (hpos : 0 < width) (h : n < 10 ^ width) :
    (padded width n).length = width := by
  have hle := (Nat.length_toDigits_le_iff (b := 10) (by decide) hpos).mpr h
  simp only [padded, List.length_append, List.length_replicate]
  omega

/-- The digits of a number give the number back, whatever zeros stand before them. -/
theorem ofDigitChars_padded (width n : Nat) : Nat.ofDigitChars 10 (padded width n) 0 = n := by
  have hzeros (count : Nat) (cs : List Char) :
      Nat.ofDigitChars 10 (List.replicate count '0' ++ cs) 0 = Nat.ofDigitChars 10 cs 0 := by
    induction count with
    | zero => rfl
    | succ count ih => exact ih
  rw [padded, hzeros, Nat.ofDigitChars_toDigits (by decide) (by decide)]

theorem takeDigits_padded (width n : Nat) (hrest : ∀ c ∈ rest.head?, c.isDigit = false) :
    takeDigits (padded width n ++ rest) = ((padded width n).map fun c => c.toNat - 48, rest) :=
  takeDigits_append (fun _ => isDigit_of_mem_padded) hrest

theorem isDigit_of_padded_eq {c : Char} {cs : List Char} (h : padded width n ++ rest = c :: cs) :
    c.isDigit = true := by
  cases hd : padded width n with
  | nil => exact absurd hd (padded_ne_nil width n)
  | cons d ds =>
    rw [hd, List.cons_append, List.cons.injEq] at h
    exact h.1 ▸ isDigit_of_mem_padded (hd ▸ List.mem_cons_self)

theorem skipBlanks_padded (width n : Nat) (rest : List Char) :
    skipBlanks (padded width n ++ rest) = padded width n ++ rest := by
  cases hp : padded width n ++ rest with
  | nil => rfl
  | cons c cs => exact skipBlanks_cons (isBlank_of_isDigit (isDigit_of_padded_eq hp)) cs

theorem readNumber?_padded (hpos : 0 < width) (h : n < 10 ^ width)
    (hrest : ∀ c ∈ rest.head?, c.isDigit = false) :
    readNumber? width (padded width n ++ rest) = some (n, rest) := by
  have hlength := length_padded hpos h
  simp only [readNumber?, skipBlanks_padded, takeDigits_padded width n hrest]
  rw [if_neg (by simp [padded_ne_nil]), List.take_of_length_le (by simp [hlength]),
    List.drop_of_length_le (by simp [hlength]), digitsValue_map, ofDigitChars_padded]
  rfl

theorem readMark?_cons {mark : Char} (h : isBlank mark = false) (cs : List Char) :
    readMark? mark (mark :: cs) = some cs := by
  simp [readMark?, skipBlanks_cons h]

/-! ## Years -/

/-- A year of four digits: the first of them is no sign. -/
theorem readYear?_padded (h : n < 10 ^ 4) (hrest : ∀ c ∈ rest.head?, c.isDigit = false) :
    readYear? (padded 4 n ++ rest) = some ((n : Int), rest) := by
  have hread := readNumber?_padded (by decide) h hrest
  simp only [readYear?, skipBlanks_padded]
  split
  · rename_i hsign
    exact absurd (isDigit_of_padded_eq hsign) (by decide)
  · rename_i hsign
    exact absurd (isDigit_of_padded_eq hsign) (by decide)
  · rw [hread]
    rfl

theorem readYear?_yearText (year : Int) (hrest : ∀ c ∈ rest.head?, c.isDigit = false) :
    readYear? (yearText year ++ rest) = some (year, rest) := by
  simp only [yearText]
  split
  · have hyear : -(year.natAbs : Int) = year := by omega
    have hminus : isBlank '-' = false := by decide
    simp only [readYear?, List.cons_append, skipBlanks_cons hminus, takeDigits_padded 4 _ hrest]
    rw [if_neg (by simp [padded_ne_nil]), digitsValue_map, ofDigitChars_padded, Option.map_some,
      hyear]
  · have hyear : (year.natAbs : Int) = year := by omega
    split
    · rw [readYear?_padded (by omega) hrest, hyear]
    · have hplus : isBlank '+' = false := by decide
      simp only [readYear?, List.cons_append, skipBlanks_cons hplus, takeDigits_padded 4 _ hrest]
      rw [if_neg (by simp [padded_ne_nil]), digitsValue_map, ofDigitChars_padded, Option.map_some,
        hyear]

/-! ## Fractions -/

/-- A fraction with fewer than nine digits stands for the one with zeros after them. -/
theorem readFraction?_point (hpos : 0 < width) (hwidth : width ≤ 9) (h : n < 10 ^ width)
    (hrest : ∀ c ∈ rest.head?, c.isDigit = false) :
    readFraction? ('.' :: padded width n ++ rest) = some (n * 10 ^ (9 - width), rest) := by
  have hlength := length_padded hpos h
  have hnine (digits : List Nat) (hdigits : digits.length = width) :
      (digits ++ List.replicate 9 0).take 9 = digits ++ List.replicate (9 - width) 0 := by
    rw [List.take_append, List.take_of_length_le (by omega), List.take_replicate, hdigits,
      min_eq_left (by omega)]
  simp only [readFraction?, List.cons_append, takeDigits_padded width n hrest]
  rw [if_neg (by simp [padded_ne_nil]), hnine _ (by simp [hlength]), digitsValue_append_zeros,
    digitsValue_map, ofDigitChars_padded]

/-- Whichever width is the first that is exact, the nanoseconds are the same. -/
theorem readFraction?_fractionText {nanos : Nat} (h : nanos < perSecond) (rest : List Char) :
    readFraction? (fractionText nanos ++ 'Z' :: rest) = some (nanos, 'Z' :: rest) := by
  have hrest : ∀ c ∈ ('Z' :: rest).head?, c.isDigit = false := by simp
  have hsecond : nanos < 1000000000 := h
  simp only [fractionText]
  split
  · subst nanos
    rfl
  split
  · rw [readFraction?_point (by decide) (by decide) (by omega) hrest]
    congr
    omega
  split
  · rw [readFraction?_point (by decide) (by decide) (by omega) hrest]
    congr
    omega
  · rw [readFraction?_point (by decide) (by decide) (by omega) hrest]
    simp

theorem head?_fractionText (nanos : Nat) (rest : List Char) :
    ∀ c ∈ (fractionText nanos ++ 'Z' :: rest).head?, c.isDigit = false := by
  simp only [fractionText]
  split_ifs <;> simp

/-! ## Dates and times -/

theorem readDate?_written (date : Date) (hmonth : date.month < 100) (hday : date.day < 100)
    (mark : Char) (hmark : mark.isDigit = false) (rest : List Char) :
    readDate? (yearText date.year ++ '-' :: padded 2 date.month ++ '-' :: padded 2 date.day
      ++ mark :: rest) = some (date, mark :: rest) := by
  simp only [readDate?, List.append_assoc, List.cons_append, Option.bind_eq_bind]
  rw [readYear?_yearText _ (by simp), Option.bind_some, readMark?_cons (by decide),
    Option.bind_some, readNumber?_padded (by decide) hmonth (by simp), Option.bind_some,
    readMark?_cons (by decide), Option.bind_some,
    readNumber?_padded (by decide) hday (by simpa using hmark)]
  rfl

theorem readTime?_written (time : TimeOfDay) (hhour : time.hour < 100)
    (hminute : time.minute < 100) (hsecond : time.second < 100) (hnanos : time.nanos < perSecond)
    (rest : List Char) :
    readTime? (padded 2 time.hour ++ ':' :: padded 2 time.minute ++ ':' :: padded 2 time.second
      ++ fractionText time.nanos ++ 'Z' :: rest) = some (time, 'Z' :: rest) := by
  simp only [readTime?, List.append_assoc, List.cons_append, Option.bind_eq_bind]
  rw [readNumber?_padded (by decide) hhour (by simp), Option.bind_some, readMark?_cons (by decide),
    Option.bind_some, readNumber?_padded (by decide) hminute (by simp), Option.bind_some,
    readMark?_cons (by decide), Option.bind_some,
    readNumber?_padded (by decide) hsecond (head?_fractionText _ _), Option.bind_some,
    readFraction?_fractionText hnanos]
  rfl

/-! ## Instants -/

theorem make?_eq_some (t : Instant) : make? t.second t.nanos = some t := by
  rw [make?, dif_pos ⟨t.first_le, t.le_last, t.nanos_lt, t.leap⟩]

/-- The time of day of an instant, in universal time. -/
def timeOfDay (t : Instant) : TimeOfDay :=
  let ofDay := (t.second % perDay).toNat
  ⟨ofDay / 3600, ofDay / 60 % 60, ofDay % 60 + t.nanos / perSecond, t.nanos % perSecond⟩

/-- Only in a leap second is the second 60, and then it belongs to the last second of the minute. -/
theorem ofParts?_timeOfDay (t : Instant) :
    ofParts? (Date.ofDayNumber (t.second / perDay)) t.timeOfDay 0 = some t := by
  have hsplit : t.second / perDay * perDay + t.second % perDay = t.second :=
    Int.ediv_mul_add_emod _ _
  have hminute : t.second % perDay % 60 = t.second % 60 := Int.emod_emod_of_dvd _ (by decide)
  have hfirst : 0 ≤ t.second % perDay := Int.emod_nonneg _ (by decide)
  have hlast : t.second % perDay < 86400 := Int.emod_lt_of_pos _ (by decide)
  have hnanos : t.nanos < 2000000000 := t.nanos_lt
  have hleap : 1000000000 ≤ t.nanos → t.second % 60 = 59 := t.leap
  simp only [timeOfDay, perSecond]
  generalize hofDay : (t.second % perDay).toNat = ofDay
  have hseconds : ofDay % 60 + t.nanos / 1000000000 ≤ 60 := by omega
  have hwhole : ((ofDay / 3600 : Nat) * 3600 + (ofDay / 60 % 60 : Nat) * 60
      + (min (ofDay % 60 + t.nanos / 1000000000) 59 : Nat) : Int) = t.second % perDay := by omega
  have hrest : t.nanos % 1000000000 + (ofDay % 60 + t.nanos / 1000000000 - 59) * 1000000000
      = t.nanos := by omega
  rw [ofParts?, if_pos ⟨Date.exists_ofDayNumber _, by dsimp only; omega, by dsimp only; omega,
    hseconds⟩]
  dsimp only [perSecond]
  rw [Date.dayNumber_ofDayNumber, hwhole, hsplit, hrest, make?_eq_some]
  show make? (t.second - 0) t.nanos = some t
  rw [Int.sub_zero, make?_eq_some]

theorem ofChars?_chars (t : Instant) : ofChars? t.chars = some t := by
  obtain ⟨⟨-, hmonth⟩, -, hday⟩ := Date.month_day_bounds (t.second / perDay)
  have hlast : t.second % perDay < 86400 := Int.emod_lt_of_pos _ (by decide)
  have hnanos : t.nanos < 2000000000 := t.nanos_lt
  have hdate := readDate?_written (Date.ofDayNumber (t.second / perDay)) (by omega) (by omega) 'T'
    (by decide)
  have htime := readTime?_written t.timeOfDay (by simp only [timeOfDay]; omega)
    (by simp only [timeOfDay]; omega) (by simp only [timeOfDay, perSecond]; omega)
    (Nat.mod_lt _ (by decide)) []
  have hoffset : readOffset? ['Z'] = some (0, []) := by decide
  simp only [timeOfDay, List.append_assoc, List.cons_append] at hdate htime
  simp only [chars, ofChars?, readSeparator?, List.append_assoc, List.cons_append, hdate, htime,
    hoffset, Option.bind_eq_bind, Option.bind_some, true_or, if_true]
  exact ofParts?_timeOfDay t

/-- An instant is read back from its text. -/
@[simp] theorem ofText?_text (t : Instant) : ofText? t.text = some t := by
  rw [ofText?, text, String.toList_ofList, ofChars?_chars]

end Instant

end EdgeCatalog
