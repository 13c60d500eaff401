/-! Numerals: decimal numbers as they are written, with their value as a 64-bit float. The first
digits, as many as fit into 64 bits, are rounded to a float, and so is its product with, or its
quotient by, the rounded power of ten. -/
namespace EdgeCatalog.Decimal

/-- A number as written: digits before the point, digits after it, power of ten. -/
structure Numeral where
  negative : Bool
  whole : List Nat
  fraction : Option (List Nat)
  exponent : Option Int
  deriving DecidableEq

def digit? (c : Char) : Option Nat :=
  if c.isDigit then some (c.toNat - 48) else none

/-- The digits in front, and what follows them. -/
def takeDigits : List Char → List Nat × List Char
  | [] => ([], [])
  | c :: rest =>
    match digit? c with
    | some d =>
      let (digits, rest) := takeDigits rest
      (d :: digits, rest)
    | none => ([], c :: rest)

/-- The value of a list of digits, the most significant one first. -/
def digitsValue (digits : List Nat) : Nat :=
  digits.foldl (fun n d => n * 10 + d) 0

namespace Numeral

/-- At least one digit. -/
def readDigits? (cs : List Char) : Option (List Nat × List Char) :=
  match takeDigits cs with
  | ([], _) => none
  | found => some found

def readFraction? : List Char → Option (Option (List Nat) × List Char)
  | '.' :: rest => (readDigits? rest).map fun (ds, rest) => (some ds, rest)
  | cs => some (none, cs)

def readExponent? : List Char → Option (Option Int × List Char)
  | c :: rest =>
    if c = 'e' ∨ c = 'E' then
      let (negative, rest) := match rest with
        | '-' :: rest => (true, rest)
        | '+' :: rest => (false, rest)
        | rest => (false, rest)
      (readDigits? rest).map fun (ds, rest) =>
        (some (if negative then -(digitsValue ds : Int) else digitsValue ds), rest)
    else some (none, c :: rest)
  | [] => some (none, [])

/-- Reads a numeral from the front: no sign but `-`, no leading zeros, a digit on both sides of a
point. -/
def read? (cs : List Char) : Option (Numeral × List Char) := do
  let (negative, cs) := match cs with
    | '-' :: rest => (true, rest)
    | cs => (false, cs)
  let (whole, cs) ← readDigits? cs
  if whole.head? = some 0 ∧ whole.length > 1 then none
  else
    let (fraction, cs) ← readFraction? cs
    let (exponent, cs) ← readExponent? cs
    some (⟨negative, whole, fraction, exponent⟩, cs)

/-- Takes digits as long as the value fits into 64 bits; the rest is left. -/
def gather (value : Nat) : List Nat → Nat × List Nat
  | [] => (value, [])
  | d :: rest =>
    if value * 10 + d < UInt64.size then gather (value * 10 + d) rest else (value, d :: rest)

/-- The value of a numeral without fraction and exponent, if it fits into 64 bits. A zero with a
sign is no whole number. -/
def int? (n : Numeral) : Option Int :=
  match n.fraction, n.exponent, gather 0 n.whole with
  | none, none, (value, []) =>
    if n.negative then
      if value = 0 ∨ 9223372036854775808 < value then none else some (-(value : Int))
    else some value
  | _, _, _ => none

def powerOfTen (n : Nat) : Float :=
  Float.ofScientific 1 false n

/-- Division by `10 ^ n`, in steps that are within the range of a float. -/
def scaleDown (f : Float) (n : Nat) : Float :=
  if n ≤ 308 then f / powerOfTen n
  else if f == 0 then f
  else scaleDown (f / powerOfTen 308) (n - 308)
termination_by n

/-- Multiplication by `10 ^ e`; `none` when the result is not finite. -/
def scale? (f : Float) (e : Int) : Option Float :=
  if e < 0 then some (scaleDown f e.natAbs)
  else if e ≤ 308 then
    let product := f * powerOfTen e.natAbs
    if product.isInf then none else some product
  else if f == 0 then some f else none

/-- The bits of the value as a float; `none` when it is out of range. -/
def floatBits? (n : Numeral) : Option UInt64 := do
  let (value, left) := gather 0 n.whole
  let (value, used) := match n.fraction with
    | none => (value, 0)
    | some fraction =>
      let (value, unused) := gather value fraction
      (value, fraction.length - unused.length)
  let magnitude ← scale? (UInt64.ofNat value).toFloat (left.length - used + n.exponent.getD 0)
  return (if n.negative then -magnitude else magnitude).toBits

end Numeral

end EdgeCatalog.Decimal
