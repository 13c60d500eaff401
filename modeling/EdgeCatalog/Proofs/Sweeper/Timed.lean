import Mathlib
import EdgeCatalog.Proofs.Store.Effect

/-! A store and its sweeper in time. Callers call the store, time passes, the token of the sweeper is
cancelled, and the task of the sweeper looks at its token and its timer, all in any order. A run of
the sweeper on its own, up to some time, is such a run (`exists_onTime_runUntil`). -/
namespace EdgeCatalog

/-! ## What one look of the task does -/

namespace Sweeper

variable {σ ε : Type} [RecordStore σ ε] {sweeper : Sweeper} {now : Nat}

/-- Has the task neither been cancelled nor ended? -/
def Active (sweeper : Sweeper) : Prop :=
  ¬(sweeper.finished = true ∨ sweeper.cancelled = true)

instance (sweeper : Sweeper) : Decidable sweeper.Active :=
  inferInstanceAs (Decidable (¬_))

/-- Does the task sweep when it looks at its timer now? -/
def Due (sweeper : Sweeper) (now : Nat) : Prop :=
  sweeper.Active ∧ sweeper.nextTick ≤ now

instance (sweeper : Sweeper) (now : Nat) : Decidable (sweeper.Due now) :=
  inferInstanceAs (Decidable (_ ∧ _))

theorem spawn_eq_ok {interval : Nat} {token : Token}
    (h : (spawn now interval token).result = .ok sweeper) :
    sweeper.interval = interval ∧ sweeper.nextTick = now + interval ∧
      sweeper.cancelled = token.cancelled ∧ sweeper.finished = false := by
  rw [spawn] at h
  split at h
  · cases h
  · split at h
    · cases h
    · obtain rfl := Except.ok.inj h
      exact ⟨rfl, rfl, rfl, rfl⟩

theorem spawn_eq_error_iff {interval : Nat} {token : Token} :
    (∃ cause, (spawn now interval token).result = .error (.invalid cause)) ↔
      interval = 0 ∨ timerLimit * timerSecond ≤ now + interval := by
  rw [spawn]
  split
  · rename_i hzero
    exact ⟨fun _ => .inl hzero, fun _ => ⟨_, rfl⟩⟩
  · rename_i hzero
    split
    · rename_i hrange
      exact ⟨fun _ => .inr hrange, fun _ => ⟨_, rfl⟩⟩
    · rename_i hrange
      refine ⟨?_, fun h => (h.elim hzero hrange).elim⟩
      rintro ⟨cause, h⟩
      cases h

/-- Asking for a sweeper does not touch the token, whether it is refused or not. -/
theorem token_spawn (now interval : Nat) (token : Token) :
    (spawn now interval token).token = token := by
  unfold spawn
  split
  · rfl
  · split <;> rfl

theorem poll_of_due (h : sweeper.Due now) (reading : Instant) (store : σ) :
    sweeper.poll now reading store =
      (sweeper.ticked now, (sweep store reading).1, (sweep store reading).2) := by
  rw [poll, if_neg h.1, if_pos h.2]

/-- Unless a sweep is due, a look leaves the store alone; it changes the task only when that is to
end. -/
theorem poll_of_not_due (h : ¬sweeper.Due now) (reading : Instant) (store : σ) :
    sweeper.poll now reading store = (sweeper.notice.1, store, sweeper.notice.2) := by
  rw [poll]
  split
  · rfl
  · rename_i hactive
    have hlater : ¬sweeper.nextTick ≤ now := fun hdue => h ⟨hactive, hdue⟩
    have hnotice : ¬(sweeper.cancelled = true ∧ ¬sweeper.finished = true) :=
      fun hcancelled => hactive (.inr hcancelled.1)
    rw [if_neg hlater, notice, if_neg hnotice]

/-- After a sweep in time the next is due one interval later. -/
theorem nextTick_ticked (h : now ≤ sweeper.nextTick) :
    (sweeper.ticked now).nextTick = sweeper.nextTick + sweeper.interval := by
  have hnow : now ≤ sweeper.nextTick + tolerance := Nat.le_add_right_of_le h
  simp only [ticked, if_pos hnow]

end Sweeper

/-! ## The system -/

/-- A store and its sweeper, at a time of the timer and with a reading of the catalog's clock. -/
structure Timed (σ : Type) where
  timer : Nat
  clock : Instant
  sweeper : Sweeper
  store : σ

namespace Timed

/-- What happens to a store and its sweeper. -/
inductive Event (κ : Type)
  /-- A caller calls the store. -/
  | call (call : κ)
  /-- Time passes: the timer goes on by a span, and then the catalog's clock reads `reading`. -/
  | wait (span : Nat) (reading : Instant)
  /-- The token of the sweeper is cancelled. -/
  | cancel
  /-- The task looks at its token and its timer. -/
  | poll

variable {σ κ ε : Type} [CallStore σ κ ε]

def after (t : Timed σ) : Event κ → Timed σ
  | .call c => { t with store := CallStore.call t.store c }
  | .wait span reading => { t with timer := t.timer + span, clock := reading }
  | .cancel => { t with sweeper := { t.sweeper with cancelled := true } }
  | .poll =>
    let (sweeper, store, _) := t.sweeper.poll t.timer t.clock t.store
    { t with sweeper, store }

def run (t : Timed σ) (events : List (Event κ)) : Timed σ :=
  events.foldl after t

@[simp] theorem run_cons (t : Timed σ) (e : Event κ) (rest : List (Event κ)) :
    t.run (e :: rest) = (t.after e).run rest := rfl

theorem after_poll_of_due {t : Timed σ} (h : t.sweeper.Due t.timer) :
    t.after (.poll : Event κ) =
      { t with
        sweeper := t.sweeper.ticked t.timer
        store := (RecordStore.cleanExpired t.store t.clock).store } := by
  rw [after, Sweeper.poll_of_due h]
  rfl

theorem after_poll_of_not_due {t : Timed σ} (h : ¬t.sweeper.Due t.timer) :
    t.after (.poll : Event κ) = { t with sweeper := t.sweeper.notice.1 } := by
  rw [after, Sweeper.poll_of_not_due h]

/-- The calls among events. -/
def calls : List (Event κ) → List κ
  | [] => []
  | .call c :: rest => c :: calls rest
  | _ :: rest => calls rest

/-- The instants at which the task sweeps while something happens. -/
def sweepsOf (t : Timed σ) : Event κ → List Instant
  | .poll => if t.sweeper.Due t.timer then [t.clock] else []
  | _ => []

def sweeps : Timed σ → List (Event κ) → List Instant
  | _, [] => []
  | t, e :: rest => t.sweepsOf e ++ sweeps (t.after e) rest

/-! ## Runs on time -/

variable [Perishable ε]

/-- What happens while nothing disturbs the sweeper: callers store with the reading of the clock, the
clock goes on as the timer does, no time passes while a sweep is due, and the token is left
alone. -/
def Undisturbed (t : Timed σ) : Event κ → Prop
  | .call c => ∀ operation, CallStore.shared? σ c = some operation →
      ∀ id now entry, operation.Stores id now entry → now = t.clock
  | .wait span reading =>
    t.clock.add? span = some reading ∧ t.timer + span ≤ t.sweeper.nextTick
  | .cancel => False
  | .poll => True

/-- Nothing disturbs the sweeper, from one event to the next. -/
def OnTime : Timed σ → List (Event κ) → Prop
  | _, [] => True
  | t, e :: rest => t.Undisturbed e ∧ OnTime (t.after e) rest

theorem onTime_append {t : Timed σ} {before later : List (Event κ)} :
    t.OnTime (before ++ later) ↔ t.OnTime before ∧ (t.run before).OnTime later := by
  induction before generalizing t with
  | nil => exact (iff_of_eq (true_and _)).symm
  | cons e rest ih => rw [List.cons_append, OnTime, OnTime, run_cons, ih, and_assoc]

/-- Does the clock go on as the timer does, from one time to another? -/
def InStep (clock : Nat → Instant) (first last : Nat) : Prop :=
  ∀ a b, first ≤ a → a ≤ b → b ≤ last → (clock a).add? (b - a : Nat) = some (clock b)

/-- What a sweeper does on its own up to some time is a run on time without calls. -/
theorem exists_onTime_runUntil {sweeper : Sweeper} (hactive : sweeper.Active) {now stop : Nat}
    {clock : Nat → Instant} (hclock : InStep clock now stop) (hnow : now ≤ sweeper.nextTick)
    (hstop : now ≤ stop) (store : σ) :
    ∃ events : List (Event κ), OnTime ⟨now, clock now, sweeper, store⟩ events ∧
      calls events = [] ∧ run ⟨now, clock now, sweeper, store⟩ events =
        ⟨stop, clock stop, (sweeper.runUntil clock stop store).1,
          (sweeper.runUntil clock stop store).2.1⟩ := by
  fun_induction Sweeper.runUntil sweeper clock stop store generalizing now with
  | case1 sweeper store hended => exact absurd hended hactive
  | case2 sweeper store _ hbefore =>
    -- nothing falls due: time just passes
    refine ⟨[.wait (stop - now) (clock stop)], ⟨⟨hclock now stop le_rfl hstop le_rfl, ?_⟩, trivial⟩,
      rfl, ?_⟩
    · show now + (stop - now) ≤ sweeper.nextTick
      omega
    · show Timed.mk (now + (stop - now)) _ _ _ = _
      rw [Nat.add_sub_cancel' hstop]
  | case3 sweeper store _ hdue swept log hswept last store' later hlast ih =>
    -- time passes until the sweep is due, the sweep is made, and then the rest follows
    have htick : sweeper.nextTick ≤ stop := Nat.le_of_not_lt hdue
    have hpos := sweeper.interval_pos
    obtain ⟨events, hontime, hcalls, hrun⟩ := ih hactive
      (fun a b ha => hclock a b (hnow.trans ha)) (by rw [Sweeper.nextTick_ticked le_rfl]; omega)
      htick
    have hwait : Timed.after (κ := κ) ⟨now, clock now, sweeper, store⟩
        (.wait (sweeper.nextTick - now) (clock sweeper.nextTick)) =
          ⟨sweeper.nextTick, clock sweeper.nextTick, sweeper, store⟩ := by
      show Timed.mk (now + (sweeper.nextTick - now)) _ _ _ = _
      rw [Nat.add_sub_cancel' hnow]
    have hpoll : Timed.after (κ := κ) ⟨sweeper.nextTick, clock sweeper.nextTick, sweeper, store⟩
        .poll = ⟨sweeper.nextTick, clock sweeper.nextTick, sweeper.ticked sweeper.nextTick, swept⟩ := by
      rw [after_poll_of_due ⟨hactive, le_rfl⟩]
      exact congrArg (Timed.mk _ _ _) (congrArg (·.1) hswept)
    rw [hlast] at hrun
    refine ⟨.wait (sweeper.nextTick - now) (clock sweeper.nextTick) :: .poll :: events, ?_, hcalls, ?_⟩
    · rw [OnTime, hwait, OnTime, hpoll]
      refine ⟨⟨hclock now sweeper.nextTick le_rfl hnow htick, ?_⟩, trivial, hontime⟩
      show now + (sweeper.nextTick - now) ≤ sweeper.nextTick
      omega
    · rw [run_cons, run_cons, hwait, hpoll, hrun]

end Timed

end EdgeCatalog
