/-! Sets of code points given as ascending inclusive ranges: the form in which the character
properties of the Unicode standard are tabulated here. -/
namespace EdgeCatalog.Text

/-- Inclusive ranges of code points, in ascending order. -/
abbrev Ranges := List (Nat × Nat)

/-- Is the code point in one of the ranges? The search ends at the first range above it. -/
def Ranges.contains : Ranges → Nat → Bool
  | [], _ => false
  | (lo, hi) :: rest, n => if n < lo then false else n ≤ hi || contains rest n

end EdgeCatalog.Text
