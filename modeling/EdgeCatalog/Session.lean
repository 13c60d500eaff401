import EdgeCatalog.Clock
import EdgeCatalog.Store.DeviceStore
import EdgeCatalog.Store.ServiceStore
import EdgeCatalog.Sweeper

/-! Sessions: a store, a clock that moves when it is told to, and sweepers on a timer, driven by a
sequence of commands. -/
namespace EdgeCatalog

structure Session (σ : Type) where
  store : σ
  clock : Instant
  /-- The timer has been running for a day when a session starts. -/
  timer : Nat := 86400 * Sweeper.timerSecond
  sweeper : Option Sweeper := none
  /-- Sweepers that were replaced without having been stopped. -/
  replaced : List Sweeper := []

/-- What can be done in a session of a store of records `ε`. -/
inductive Command (ε : Type)
  | add (entry : ε)
  | update (id : String) (entry : ε)
  | delete (id : String)
  | get (id : String)
  | getMany (page perPage : UInt64)
  | filterOne (path relation value : String)
  | filterMany (path relation value : String) (page perPage : UInt64)
  /-- Removes what has expired at an instant, or by the clock. -/
  | clean (at? : Option Instant)
  | moveClock (move : Clock.Move)
  | isEmpty
  | metrics
  | resetMetrics
  | summary
  | startSweeper (interval : Nat) (cancelled : Bool)
  /-- Lets the timer run for a number of nanoseconds. -/
  | run (span : Nat)
  | sweeperFinished
  | cancelSweeper
  | stopSweeper

/-- What can be done with the resources of a device store. -/
inductive ResourceCommand
  | get (id : String)
  | filterOne (path relation value : String)
  | filterMany (path relation value : String) (page perPage : UInt64)
  | devices (resources : List Resource)

/-- What a command answers. -/
inductive Reply (ε : Type)
  | record (value : ε)
  | page (value : Page ε)
  | count (n : Nat)
  | instant (value : Instant)
  | flag (value : Bool)
  | metrics (value : Metrics)
  | text (value : String)
  /-- There is nothing to tell. -/
  | nothing

/-- Why a command fails. -/
inductive Failure
  | error (cause : Error)
  | clockOverflow

/-- The outcome of a command. -/
structure Outcome (σ α : Type) where
  result : Except Failure α
  session : Session σ
  events : List Event := []

def Outcome.map {σ α β : Type} (o : Outcome σ α) (f : α → β) : Outcome σ β :=
  ⟨o.result.map f, o.session, o.events⟩

namespace Session

section

variable {σ ε α : Type}

/-- Takes over the outcome of an operation of the store. -/
def ofStep (s : Session σ) (step : Step σ α) : Outcome σ α :=
  ⟨step.result.mapError .error, { s with store := step.store }, step.events⟩

def reply (s : Session σ) (r : Reply ε) : Outcome σ (Reply ε) :=
  ⟨.ok r, s, []⟩

/-- Lets sweepers run one after the other. -/
def runAll [RecordStore σ ε] (clock : Instant) (stop : Nat) :
    List Sweeper → σ → List Sweeper × σ × List Event
  | [], store => ([], store, [])
  | sweeper :: rest, store =>
    let (sweeper, store, events) := sweeper.runUntil (fun _ => clock) stop store
    let (rest, store, later) := runAll clock stop rest store
    (sweeper :: rest, store, events ++ later)

/-- Cancels the sweeper and lets it notice. -/
def cancelled (sweeper : Sweeper) : Sweeper × List Event :=
  Sweeper.notice { sweeper with cancelled := true }

def apply [RecordStore σ ε] (s : Session σ) : Command ε → Outcome σ (Reply ε)
  | .add entry => (s.ofStep (RecordStore.add s.store s.clock entry)).map .record
  | .update id entry => (s.ofStep (RecordStore.update s.store s.clock id entry)).map .record
  | .delete id => (s.ofStep (RecordStore.delete s.store id)).map .record
  | .get id => (s.ofStep (RecordStore.get s.store id)).map .record
  | .getMany page perPage => (s.ofStep (RecordStore.getMany s.store page perPage)).map .page
  | .filterOne path relation value =>
    (s.ofStep (RecordStore.filterOne s.store path relation value)).map .record
  | .filterMany path relation value page perPage =>
    (s.ofStep (RecordStore.filterMany s.store path relation value page perPage)).map .page
  | .clean at? =>
    let swept := RecordStore.cleanExpired s.store (at?.getD s.clock)
    ⟨.ok (.count swept.removed), { s with store := swept.store }, swept.events⟩
  | .moveClock move =>
    match Clock.move s.clock move with
    | some clock => ⟨.ok (.instant clock), { s with clock }, []⟩
    | none => ⟨.error .clockOverflow, s, []⟩
  | .isEmpty => s.reply (.flag (RecordStore.size s.store == 0))
  | .metrics => s.reply (.metrics (RecordStore.metrics s.store))
  | .resetMetrics =>
    let store := RecordStore.resetMetrics s.store
    reply { s with store } (.metrics (RecordStore.metrics store))
  | .summary => s.reply (.text (RecordStore.summary s.store))
  | .startSweeper interval cancelled =>
    match (Sweeper.spawn s.timer interval ⟨cancelled⟩).result with
    | .error e => ⟨.error (.error e), s, []⟩
    | .ok sweeper =>
      let (running, events) := sweeper.notice
      ⟨.ok (.flag true),
        { s with sweeper := some running, replaced := s.replaced ++ s.sweeper.toList },
        sweeper.started :: events⟩
  | .run span =>
    let stop := s.timer + span
    let (replaced, store, events) := runAll s.clock stop s.replaced s.store
    match s.sweeper with
    | none => ⟨.ok .nothing, { s with store, replaced, timer := stop }, events⟩
    | some sweeper =>
      let (sweeper, store, later) := sweeper.runUntil (fun _ => s.clock) stop store
      ⟨.ok .nothing, { s with store, replaced, timer := stop, sweeper := some sweeper },
        events ++ later⟩
  | .sweeperFinished =>
    match s.sweeper with
    | none => s.reply .nothing
    | some sweeper => s.reply (.flag sweeper.finished)
  | .cancelSweeper =>
    match s.sweeper with
    | none => s.reply .nothing
    | some sweeper =>
      let (sweeper, events) := cancelled sweeper
      ⟨.ok (.flag sweeper.finished), { s with sweeper := some sweeper }, events⟩
  | .stopSweeper =>
    match s.sweeper with
    | none => s.reply .nothing
    | some sweeper => ⟨.ok (.flag true), { s with sweeper := none }, (cancelled sweeper).2⟩

end

/-- What a command on resources answers. -/
inductive ResourceReply
  | record (value : Resource)
  | page (value : Page Resource)
  | devices (values : List Device)

def applyResource (s : Session DeviceStore) : ResourceCommand → Outcome DeviceStore ResourceReply
  | .get id => (s.ofStep (s.store.getResource id)).map .record
  | .filterOne path relation value =>
    (s.ofStep (s.store.filterResourceOne path relation value)).map .record
  | .filterMany path relation value page perPage =>
    (s.ofStep (s.store.filterResourceMany path relation value page perPage)).map .page
  | .devices resources => (s.ofStep (s.store.devicesFromResources resources)).map .devices

end Session

end EdgeCatalog
