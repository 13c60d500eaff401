import EdgeCatalog.Store.Step

/-! The expiry sweeper: a task that removes expired records at regular intervals until it is
cancelled. Time is that of a timer, in nanoseconds; what counts as expired is up to the reading of
the catalog's clock. -/
namespace EdgeCatalog

structure Sweeper where
  interval : Nat
  /-- When the next sweep is due. -/
  nextTick : Nat
  /-- What the task sees of its token. -/
  cancelled : Bool := false
  /-- The task has ended. -/
  finished : Bool := false
  interval_pos : 0 < interval
  deriving DecidableEq

namespace Sweeper

/-- Nanoseconds in a second of the timer, and the first second that it cannot represent. -/
def timerSecond : Nat := 1000000000
def timerLimit : Nat := 9223372036854775808

/-- A token, by which a caller tells a task to end. -/
structure Token where
  cancelled : Bool := false
  deriving DecidableEq

/-- What comes of asking for a sweeper: the sweeper or why there is none, and the token as its
caller holds it from then on. -/
structure Spawned where
  result : Except Error Sweeper
  token : Token

/-- A sweeper that shares the token and whose first sweep is due one interval from now. An interval
of zero is refused, and one that ends beyond the timer. -/
def spawn (now interval : Nat) (token : Token) : Spawned :=
  if h : interval = 0 then ⟨.error (.invalid .sweepIntervalZero), token⟩
  else if timerLimit * timerSecond ≤ now + interval then
    ⟨.error (.invalid (.sweepIntervalRange interval)), token⟩
  else
    ⟨.ok {
      interval, nextTick := now + interval, cancelled := token.cancelled,
      interval_pos := Nat.pos_of_ne_zero h }, token⟩

/-- The event with which the task starts; its milliseconds are a 64-bit word. -/
def started (sweeper : Sweeper) : Event :=
  .sweeperStarted (UInt64.ofNat (sweeper.interval / 1000000))

section

variable {σ ε : Type} [RecordStore σ ε]

/-- One sweep at a reading of the clock. -/
def sweep (store : σ) (reading : Instant) : σ × List Event :=
  let swept := RecordStore.cleanExpired store reading
  (swept.store,
    if swept.removed = 0 then swept.events
    else swept.events ++ [.sweepFinished swept.removed (RecordStore.size swept.store)])

/-- Lets the task look at its token: when that is cancelled, the task ends. -/
def notice (sweeper : Sweeper) : Sweeper × List Event :=
  if sweeper.cancelled ∧ ¬sweeper.finished then
    ({ sweeper with finished := true }, [.sweeperStopped])
  else (sweeper, [])

/-- How late a sweep may be made and still count as made in time. -/
def tolerance : Nat := 5000000

/-- The sweeper after a sweep that was due and is made now. After one in time the next is due one
interval after it was due, and after a late one an interval from now. -/
def ticked (sweeper : Sweeper) (now : Nat) : Sweeper :=
  let made := if now ≤ sweeper.nextTick + tolerance then sweeper.nextTick else now
  { sweeper with nextTick := made + sweeper.interval }

/-- Lets the task look at its token and its timer once. A cancellation comes before a sweep that
is due. -/
def poll (sweeper : Sweeper) (now : Nat) (reading : Instant) (store : σ) :
    Sweeper × σ × List Event :=
  if sweeper.finished ∨ sweeper.cancelled then
    (sweeper.notice.1, store, sweeper.notice.2)
  else if sweeper.nextTick ≤ now then
    let (store, events) := sweep store reading
    (sweeper.ticked now, store, events)
  else (sweeper, store, [])

/-- Lets the timer run up to `stop`; every sweep due by then is made when it is due. `clock` tells
the reading of the catalog's clock at a time of the timer. -/
def runUntil (sweeper : Sweeper) (clock : Nat → Instant) (stop : Nat) (store : σ) :
    Sweeper × σ × List Event :=
  if sweeper.finished ∨ sweeper.cancelled then
    (sweeper.notice.1, store, sweeper.notice.2)
  else if stop < sweeper.nextTick then (sweeper, store, [])
  else
    let (store, events) := sweep store (clock sweeper.nextTick)
    let (last, store, later) := (sweeper.ticked sweeper.nextTick).runUntil clock stop store
    (last, store, events ++ later)
termination_by stop + 1 - sweeper.nextTick
decreasing_by
  have := sweeper.interval_pos
  simp only [ticked, Nat.le_add_right, if_true]
  omega

end

end Sweeper

end EdgeCatalog
