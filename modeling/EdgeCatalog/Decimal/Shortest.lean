/-! The shortest decimal that reads back as a given 64-bit float, found in exact arithmetic: of all
decimals between the two midpoints to the neighbouring floats, the one with the fewest digits, and
of those the one nearest to the float. -/
namespace EdgeCatalog.Decimal

/-- A positive float `mantissa * 2 ^ exponent`. -/
structure Binary where
  mantissa : Nat
  exponent : Int
  /-- The next float below is only half as far away as the next one above. -/
  atStep : Bool
  deriving DecidableEq

/-- The fraction of a float takes 52 of its bits. -/
def fractionSize : Nat := 4503599627370496

/-- The finite float with the given bits, without its sign; `none` for zero. -/
def Binary.ofBits? (bits : UInt64) : Option Binary :=
  let fraction := bits.toNat % fractionSize
  let biased : Nat := bits.toNat / fractionSize % 2048
  if biased = 0 then
    if fraction = 0 then none else some ⟨fraction, -1074, false⟩
  else some ⟨fraction + fractionSize, (biased : Int) - 1075, fraction == 0 && biased > 1⟩

/-- A decimal `digits * 10 ^ exponent`. -/
structure Scaled where
  digits : Nat
  exponent : Int
  deriving DecidableEq

/-- The quotient `num * 2 ^ e / 10 ^ k` as numerator and denominator. -/
def ratio (num : Nat) (e k : Int) : Nat × Nat :=
  (num * Nat.pow 2 e.toNat * Nat.pow 10 (-k).toNat, Nat.pow 2 (-e).toNat * Nat.pow 10 k.toNat)

/-- The least `j ≤ fuel` with `den ≤ num * 10 ^ j`. -/
def leadingZeros (num den : Nat) : Nat → Nat
  | 0 => 0
  | fuel + 1 => if den ≤ num then 0 else leadingZeros (num * 10) den fuel + 1

/-- The exponent of the first significant digit. -/
def leadingExponent (b : Binary) : Int :=
  let (num, den) := ratio b.mantissa b.exponent 0
  if den ≤ num then ((Nat.toDigits 10 (num / den)).length : Int) - 1
  else -(leadingZeros num den 330 : Int)

/-- The multiple of `10 ^ k` that reads back as the float and is nearest to it, if one does. -/
def onGrid? (b : Binary) (k : Int) : Option Scaled :=
  let (num, den) := ratio (4 * b.mantissa) (b.exponent - 2) k
  let (low, _) := ratio (4 * b.mantissa - (if b.atStep then 1 else 2)) (b.exponent - 2) k
  let (high, _) := ratio (4 * b.mantissa + 2) (b.exponent - 2) k
  let inside (d : Nat) : Bool :=
    if b.mantissa % 2 = 0 then low ≤ d * den && d * den ≤ high
    else low < d * den && d * den < high
  let below := num / den
  let above := below + 1
  match inside below, inside above with
  | true, true =>
    let toBelow := num - below * den
    let toAbove := above * den - num
    let takeBelow := toBelow < toAbove || (toBelow == toAbove && below % 2 == 0)
    some ⟨if takeBelow then below else above, k⟩
  | true, false => some ⟨below, k⟩
  | false, true => some ⟨above, k⟩
  | false, false => none

/-- Seventeen digits are always enough. -/
def shortest (b : Binary) : Scaled :=
  let lead := leadingExponent b
  match (List.range 17).findSome? fun (n : Nat) => onGrid? b (lead - n) with
  | some s => s
  | none => ⟨0, 0⟩

/-- Whole numbers of digits without zeros at the end. -/
def Scaled.strip (s : Scaled) : Nat → Scaled
  | 0 => s
  | fuel + 1 =>
    if s.digits ≠ 0 ∧ s.digits % 10 = 0 then strip ⟨s.digits / 10, s.exponent + 1⟩ fuel else s

/-- Positional from `0.00001` up to sixteen digits before the point, and always with a point;
outside that range in scientific notation. -/
def Scaled.text (s : Scaled) : String :=
  let digits := Nat.toDigits 10 s.digits
  let point := (digits.length : Int) + s.exponent
  if 0 ≤ s.exponent ∧ point ≤ 16 then
    String.ofList (digits ++ List.replicate s.exponent.toNat '0') ++ ".0"
  else if 0 < point ∧ point ≤ 16 then
    String.ofList (digits.take point.toNat ++ '.' :: digits.drop point.toNat)
  else if -5 < point ∧ point ≤ 0 then
    "0." ++ String.ofList (List.replicate (-point).toNat '0' ++ digits)
  else
    let power := point - 1
    String.ofList (digits.take 1)
      ++ (if digits.length > 1 then "." ++ String.ofList (digits.drop 1) else "")
      ++ "e" ++ (if power < 0 then "-" else "+") ++ toString power.natAbs

/-- The text of the finite float with the given bits. -/
def floatText (bits : UInt64) : String :=
  (if 9223372036854775808 ≤ bits.toNat then "-" else "") ++
    match Binary.ofBits? bits with
    | none => "0.0"
    | some b => ((shortest b).strip 20).text

end EdgeCatalog.Decimal
