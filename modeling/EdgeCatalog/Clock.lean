import EdgeCatalog.Instant.Basic

/-! A clock that moves only when it is told to. -/
namespace EdgeCatalog.Clock

/-- How a clock is moved: by a span of nanoseconds, or to an instant. -/
inductive Move
  | advance (span : Int)
  | set (instant : Instant)
  deriving DecidableEq

/-- The reading after a move; `none` when it would leave the range, and then the clock stays. -/
def move (now : Instant) : Move → Option Instant
  | .advance span => now.add? span
  | .set instant => some instant

/-- What is reported when a move would leave the range. -/
def overflowMessage : String := "`DateTime + TimeDelta` overflowed"

/-- The readings after each of a list of moves, and whether the move was made. -/
def run (now : Instant) : List Move → List (Instant × Bool)
  | [] => []
  | m :: rest =>
    match move now m with
    | some next => (next, true) :: run next rest
    | none => (now, false) :: run now rest

end EdgeCatalog.Clock
