import EdgeCatalog.Instant.Calendar
import EdgeCatalog.Decimal.Numeral
import EdgeCatalog.Text.Blank

/-! Instants as text in the internet date-time format: the form they are written in, and the wider
one they are read from. -/
namespace EdgeCatalog.Instant

/-! ## Writing -/

/-- A number with at least `width` digits. -/
def padded (width n : Nat) : List Char :=
  let digits := Nat.toDigits 10 n
  List.replicate (width - digits.length) '0' ++ digits

/-- Four digits, and a sign where the year needs more or is negative. -/
def yearText (year : Int) : List Char :=
  if year < 0 then '-' :: padded 4 year.natAbs
  else if year ≤ 9999 then padded 4 year.natAbs
  else '+' :: padded 4 year.natAbs

/-- No fraction, milliseconds, microseconds or nanoseconds: the first that is exact. -/
def fractionText (nanos : Nat) : List Char :=
  if nanos = 0 then []
  else if nanos % 1000000 = 0 then '.' :: padded 3 (nanos / 1000000)
  else if nanos % 1000 = 0 then '.' :: padded 6 (nanos / 1000)
  else '.' :: padded 9 nanos

/-- In universal time; a leap second is the second 60 of its minute. -/
def chars (t : Instant) : List Char :=
  let date := Date.ofDayNumber (t.second / perDay)
  let ofDay := (t.second % perDay).toNat
  let second := ofDay % 60 + t.nanos / perSecond
  yearText date.year ++ '-' :: padded 2 date.month ++ '-' :: padded 2 date.day
    ++ 'T' :: padded 2 (ofDay / 3600) ++ ':' :: padded 2 (ofDay / 60 % 60)
    ++ ':' :: padded 2 second ++ fractionText (t.nanos % perSecond) ++ ['Z']

def text (t : Instant) : String :=
  String.ofList t.chars

/-! ## Reading -/

open EdgeCatalog.Text (skipBlanks)
open EdgeCatalog.Decimal (digit? takeDigits digitsValue)

/-- One to `most` digits, after white space. -/
def readNumber? (most : Nat) (cs : List Char) : Option (Nat × List Char) :=
  let (digits, rest) := takeDigits (skipBlanks cs)
  if digits.isEmpty then none
  else some (digitsValue (digits.take most), (digits.drop most).map Nat.digitChar ++ rest)

/-- Up to four digits, or any number of them after a sign. -/
def readYear? (cs : List Char) : Option (Int × List Char) :=
  let signed (rest : List Char) : Option (Nat × List Char) :=
    let (digits, rest) := takeDigits rest
    if digits.isEmpty then none else some (digitsValue digits, rest)
  match skipBlanks cs with
  | '-' :: rest => (signed rest).map fun (n, rest) => (-(n : Int), rest)
  | '+' :: rest => (signed rest).map fun (n, rest) => ((n : Int), rest)
  | cs => (readNumber? 4 cs).map fun (n, rest) => ((n : Int), rest)

/-- The given character, after white space. -/
def readMark? (mark : Char) (cs : List Char) : Option (List Char) :=
  match skipBlanks cs with
  | c :: rest => if c = mark then some rest else none
  | [] => none

/-- A fraction in nanoseconds; digits after the ninth are dropped. -/
def readFraction? : List Char → Option (Nat × List Char)
  | '.' :: rest =>
    let (digits, rest) := takeDigits rest
    if digits.isEmpty then none
    else some (digitsValue ((digits ++ List.replicate 9 0).take 9), rest)
  | cs => some (0, cs)

/-- Two digits, and nothing before them. -/
def readTwo? : List Char → Option (Nat × List Char)
  | a :: b :: rest => do return ((← digit? a) * 10 + (← digit? b), rest)
  | _ => none

/-- An offset from universal time in seconds: `Z`, `UTC`, or hours and minutes after a sign. -/
def readOffset? (cs : List Char) : Option (Int × List Char) :=
  match skipBlanks cs with
  | a :: rest =>
    if a = 'Z' ∨ a = 'z' then some (0, rest)
    else if ((a :: rest).take 3).map Char.toUpper = ['U', 'T', 'C'] then some (0, rest.drop 2)
    else if a = '+' ∨ a = '-' ∨ a = Char.ofNat 0x2212 then do
      let (hours, rest) ← readTwo? rest
      let (minutes, rest) ← readTwo? (rest.dropWhile fun c => c = ':' || Text.isBlank c)
      if minutes < 60 ∧ hours < 24 then
        let offset : Int := hours * 3600 + minutes * 60
        some (if a = '+' then offset else -offset, rest)
      else none
    else none
  | [] => none

/-- A year, a month and a day; whether there is such a date is not looked at. -/
def readDate? (cs : List Char) : Option (Date × List Char) := do
  let (year, cs) ← readYear? cs
  let (month, cs) ← readNumber? 2 (← readMark? '-' cs)
  let (day, cs) ← readNumber? 2 (← readMark? '-' cs)
  return (⟨year, month, day⟩, cs)

/-- The character between a date and a time of day. -/
def readSeparator? : List Char → Option (List Char)
  | c :: cs => if c = 'T' ∨ c = 't' ∨ c = ' ' then some cs else none
  | [] => none

/-- A time of day as it is written. -/
structure TimeOfDay where
  hour : Nat
  minute : Nat
  second : Nat
  nanos : Nat
  deriving DecidableEq

def readTime? (cs : List Char) : Option (TimeOfDay × List Char) := do
  let (hour, cs) ← readNumber? 2 cs
  let (minute, cs) ← readNumber? 2 (← readMark? ':' cs)
  let (second, cs) ← readNumber? 2 (← readMark? ':' cs)
  let (nanos, cs) ← readFraction? cs
  return (⟨hour, minute, second, nanos⟩, cs)

/-- The instant with a date and a time of day at an offset. The second 60 is a leap second. -/
def ofParts? (date : Date) (time : TimeOfDay) (offset : Int) : Option Instant :=
  if date.Exists ∧ time.hour < 24 ∧ time.minute < 60 ∧ time.second ≤ 60 then do
    let ofDay : Int := time.hour * 3600 + time.minute * 60 + min time.second 59
    let here ← make? (date.dayNumber * perDay + ofDay)
      (time.nanos + (time.second - 59) * perSecond)
    make? (here.second - offset) here.nanos
  else none

/-- A date, a time of day and an offset. White space may stand before every part. -/
def ofChars? (cs : List Char) : Option Instant := do
  let (date, cs) ← readDate? cs
  let (time, cs) ← readTime? (← readSeparator? cs)
  let (offset, cs) ← readOffset? cs
  if (skipBlanks cs).isEmpty then ofParts? date time offset else none

def ofText? (s : String) : Option Instant :=
  ofChars? s.toList

end EdgeCatalog.Instant
