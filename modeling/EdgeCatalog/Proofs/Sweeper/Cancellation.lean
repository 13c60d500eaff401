import Mathlib
import EdgeCatalog.Proofs.Device.Refinement
import EdgeCatalog.Proofs.Instant.Arithmetic
import EdgeCatalog.Proofs.Service.Refinement
import EdgeCatalog.Proofs.Sweeper.Ageing
import EdgeCatalog.Proofs.Sweeper.Timed

/-! What is left of a sweeper once its token has been cancelled, or once it was refused
(`cancellation_safe`). The task looks at the token before it looks at the timer, so even a sweep that
is due at that instant is not made any more: the task ends, and the store belongs to its callers. -/
namespace EdgeCatalog

namespace Timed

variable {σ κ ε : Type} [CallStore σ κ ε] {t : Timed σ}

/-- From here on the task sweeps no more and ends when it looks at its token, and the store changes
by the calls of its callers and nothing else. -/
structure Silenced (t : Timed σ) (events : List (Event κ)) : Prop where
  cancelled : (t.run events).sweeper.cancelled = true
  sweeps : t.sweeps events = []
  finished : (t.run events).sweeper.finished = true ↔
    t.sweeper.finished = true ∨ .poll ∈ events
  store : (t.run events).store = CallStore.run t.store (calls events)

theorem not_due_of_cancelled (h : t.sweeper.cancelled = true) : ¬t.sweeper.Due t.timer :=
  fun hdue => hdue.1 (.inr h)

theorem sweepsOf_of_cancelled (h : t.sweeper.cancelled = true) (e : Event κ) :
    t.sweepsOf e = [] := by
  cases e with
  | call c => rfl
  | wait span reading => rfl
  | cancel => rfl
  | poll => exact if_neg (not_due_of_cancelled h)

/-- A cancelled task that looks at its token ends. -/
theorem after_poll_of_cancelled (h : t.sweeper.cancelled = true) :
    t.after (.poll : Event κ) = { t with sweeper := { t.sweeper with finished := true } } := by
  rw [after_poll_of_not_due (not_due_of_cancelled h), Sweeper.notice]
  by_cases hfinished : t.sweeper.finished = true
  · rw [if_neg fun hgoing => hgoing.2 hfinished]
    exact congrArg (fun finished => { t with sweeper := { t.sweeper with finished } }) hfinished
  · rw [if_pos ⟨h, hfinished⟩]

/-- One event leaves a cancelled task cancelled. -/
theorem cancelled_after (h : t.sweeper.cancelled = true) (e : Event κ) :
    (t.after e).sweeper.cancelled = true := by
  cases e with
  | call c => exact h
  | wait span reading => exact h
  | cancel => rfl
  | poll =>
    rw [after_poll_of_cancelled h]
    exact h

theorem silenced (h : t.sweeper.cancelled = true) (events : List (Event κ)) :
    t.Silenced events := by
  induction events generalizing t with
  | nil => exact ⟨h, rfl, by simp [run], rfl⟩
  | cons e rest ih =>
    obtain ⟨hcancelled, hsweeps, hfinished, hstore⟩ := ih (cancelled_after h e)
    constructor
    case cancelled => exact hcancelled
    case sweeps => rw [Timed.sweeps, sweepsOf_of_cancelled h, hsweeps, List.nil_append]
    case finished =>
      rw [run_cons, hfinished, List.mem_cons]
      cases e with
      | poll => simp [after_poll_of_cancelled h]
      | call c => simp [after]
      | wait span reading => simp [after]
      | cancel => simp [after]
    case store =>
      rw [run_cons, hstore]
      cases e with
      | call c => rfl
      | wait span reading => rfl
      | cancel => rfl
      | poll =>
        rw [after_poll_of_cancelled h]
        rfl

/-- Whatever happens, the store is one that calls leave. -/
theorem valid_run [Perishable ε] [Dated ε] {valid : σ → Prop} {records : σ → Table ε}
    (ages : CallStore.Ages (κ := κ) valid records) (hs : valid t.store)
    (events : List (Event κ)) : valid (t.run events).store := by
  induction events generalizing t with
  | nil => exact hs
  | cons e rest ih =>
    refine ih ?_
    cases e with
    | call c => exact ages.valid_call hs c
    | wait span reading => exact hs
    | cancel => exact hs
    | poll =>
      by_cases hdue : t.sweeper.Due t.timer
      · rw [after_poll_of_due hdue]
        exact (ages.swept hs t.clock).1
      · rw [after_poll_of_not_due hdue]
        exact hs

end Timed

/-! ## Sessions -/

namespace Session

variable {σ ε : Type} [RecordStore σ ε] {s : Session σ}

/-- No sweeper of the session has a token that is not cancelled. -/
def AllCancelled (s : Session σ) : Prop :=
  ∀ sweeper ∈ s.replaced ++ s.sweeper.toList, sweeper.cancelled = true

theorem runUntil_of_cancelled {sweeper : Sweeper} (h : sweeper.cancelled = true)
    (clock : Nat → Instant) (stop : Nat) (store : σ) :
    sweeper.runUntil clock stop store = (sweeper.notice.1, store, sweeper.notice.2) := by
  rw [Sweeper.runUntil, if_pos (.inr h)]

theorem store_runAll_of_cancelled {sweepers : List Sweeper}
    (h : ∀ sweeper ∈ sweepers, sweeper.cancelled = true) (clock : Instant) (stop : Nat)
    (store : σ) : (runAll clock stop sweepers store).2.1 = store := by
  induction sweepers generalizing store with
  | nil => rfl
  | cons sweeper rest ih =>
    rw [runAll, runUntil_of_cancelled (h sweeper List.mem_cons_self)]
    exact ih (fun later hlater => h later (List.mem_cons_of_mem sweeper hlater)) store

/-- Time passes and the store stays as it is. -/
theorem store_run_of_allCancelled (h : s.AllCancelled) (span : Nat) :
    (s.apply (.run span : Command ε)).session.store = s.store := by
  have hreplaced := store_runAll_of_cancelled
    (fun sweeper hin => h sweeper (List.mem_append_left _ hin)) s.clock (s.timer + span) s.store
  rw [apply]
  cases hsweeper : s.sweeper with
  | none => exact hreplaced
  | some sweeper =>
    have hcancelled : sweeper.cancelled = true := by
      refine h sweeper (List.mem_append_right _ ?_)
      rw [hsweeper]
      exact List.mem_singleton_self sweeper
    dsimp only
    rw [runUntil_of_cancelled hcancelled]
    exact hreplaced

/-- Cancelling or stopping the sweeper leaves a session in which nothing sweeps any more. -/
theorem allCancelled_of_end (h : s.replaced = []) {c : Command ε}
    (hc : c = .cancelSweeper ∨ c = .stopSweeper) :
    (s.apply c).session.AllCancelled ∧ (s.apply c).session.store = s.store := by
  cases hsweeper : s.sweeper with
  | none =>
    have hsame : (s.apply c).session = s := by
      rcases hc with rfl | rfl <;> simp [apply, hsweeper, reply]
    rw [hsame]
    exact ⟨by simp [AllCancelled, h, hsweeper], rfl⟩
  | some sweeper =>
    rcases hc with rfl | rfl
    · simp only [apply, hsweeper]
      refine ⟨?_, trivial⟩
      intro other hin
      rw [h, List.nil_append, Option.toList_some, List.mem_singleton] at hin
      rw [hin, cancelled, Sweeper.notice]
      split <;> rfl
    · simp only [apply, hsweeper]
      exact ⟨by simp [AllCancelled, h], trivial⟩

/-- A sweeper is refused when there is nothing to wait for, or longer than the timer can tell; the
session is then what it was, with all that runs in it. -/
theorem startSweeper_refused_iff {interval : Nat} {cancelled : Bool} :
    (∃ cause, s.apply (.startSweeper interval cancelled : Command ε) =
        ⟨.error (.error (.invalid cause)), s, []⟩) ↔
      interval = 0 ∨ Sweeper.timerLimit * Sweeper.timerSecond ≤ s.timer + interval := by
  have hspawn : (∃ cause, (Sweeper.spawn s.timer interval ⟨cancelled⟩).result =
      .error (.invalid cause)) ↔ _ := Sweeper.spawn_eq_error_iff
  rw [← hspawn, apply]
  cases (Sweeper.spawn s.timer interval ⟨cancelled⟩).result with
  | error e => simp
  | ok sweeper => simp

end Session

/-! ## Safety -/

/-- Once its token has been cancelled, however that falls between the sweeps that are due and the
looks of the task, a sweeper sweeps no more and ends at the next look; the store is then one that
the calls of its callers leave, and follows the map as any such store does. In a session nothing
happens to the store after that while time passes. A sweeper whose interval is zero or ends beyond
the timer is refused, and a session in which that happens is what it was before; nor does asking
touch the token that was handed in. -/
theorem cancellation_safe :
    (∀ (t : Timed DeviceStore) (before later : List (Timed.Event DeviceCall)),
      t.store.Reachable →
      let stopped := (t.run before).after (.cancel : Timed.Event DeviceCall)
      stopped.Silenced later ∧ (stopped.run later).store.Reachable ∧
        (stopped.run later).store.Follows
          ((Timed.calls later).foldl DeviceMap.call stopped.store.contents)) ∧
    (∀ (t : Timed ServiceStore) (before later : List (Timed.Event (Operation Service))),
      t.store.Reachable →
      let stopped := (t.run before).after (.cancel : Timed.Event (Operation Service))
      stopped.Silenced later ∧ (stopped.run later).store.Reachable ∧
        (stopped.run later).store.Follows
          ((Timed.calls later).foldl ServiceMap.call stopped.store.tables.data)) ∧
    (∀ (σ ε : Type) [RecordStore σ ε] (s : Session σ),
      (∀ c : Command ε, c = .cancelSweeper ∨ c = .stopSweeper → s.replaced = [] →
        ∀ span, ((s.apply c).session.apply (.run span : Command ε)).session.store = s.store) ∧
      (∀ interval cancelled, (∃ cause, s.apply (.startSweeper interval cancelled : Command ε) =
          ⟨.error (.error (.invalid cause)), s, []⟩) ↔
        interval = 0 ∨ Sweeper.timerLimit * Sweeper.timerSecond ≤ s.timer + interval)) ∧
    ∀ (now interval : Nat) (token : Sweeper.Token),
      ((∃ cause, (Sweeper.spawn now interval token).result = .error (.invalid cause)) ↔
        interval = 0 ∨ Sweeper.timerLimit * Sweeper.timerSecond ≤ now + interval) ∧
      (Sweeper.spawn now interval token).token = token := by
  refine ⟨?_, ?_, ?_, ?_⟩
  · intro t before later hs stopped
    have hend : stopped.store.Reachable := Timed.valid_run DeviceStore.ages hs before
    have hsilenced := Timed.silenced (t := stopped) rfl later
    refine ⟨hsilenced, Timed.valid_run DeviceStore.ages hend later, ?_⟩
    rw [hsilenced.store]
    exact DeviceStore.follows_of_stands (DeviceStore.stands_run hend.stands _)
  · intro t before later hs stopped
    have hend : stopped.store.Reachable := Timed.valid_run ServiceStore.ages hs before
    have hsilenced := Timed.silenced (t := stopped) rfl later
    refine ⟨hsilenced, Timed.valid_run ServiceStore.ages hend later, ?_⟩
    rw [hsilenced.store]
    exact ServiceStore.follows_of_stands (ServiceStore.stands_run hend.stands _)
  · intro σ ε _ s
    refine ⟨?_, fun interval cancelled => Session.startSweeper_refused_iff⟩
    intro c hc hnone span
    obtain ⟨hall, hstore⟩ := Session.allCancelled_of_end hnone hc
    rw [Session.store_run_of_allCancelled hall, hstore]
  · intro now interval token
    exact ⟨Sweeper.spawn_eq_error_iff, Sweeper.token_spawn now interval token⟩

/-- A cancellation at the very instant at which a sweep is due: the registration that the sweep would
have removed stays, and the task ends. A device that is stored and taken out after a cancellation
that comes before the first sweep, and a session in which a sweeper with no interval is asked for;
the token that is handed in for such a one stays what it was. -/
theorem cancellation_safe_ties :
    let sweeper : Sweeper :=
      { interval := 1000000000, nextTick := 1000000000, interval_pos := by decide }
    let one := Instant.of 1 0
    let due : Timed ServiceStore := Timed.after
      (Timed.run ⟨0, .epoch, sweeper, ServiceStore.run {} [.add .epoch { id := "a/b" }]⟩
        [.wait 1000000000 one]) (.cancel : Timed.Event (Operation Service))
    let early : Timed DeviceStore := Timed.after
      (Timed.run ⟨0, .epoch, sweeper, ({} : DeviceStore)⟩ ([] : List (Timed.Event DeviceCall)))
      (.cancel : Timed.Event DeviceCall)
    let session : Session ServiceStore := { store := {}, clock := .epoch }
    (sweeper.Due due.timer ∧ due.Silenced [.poll] ∧
      (due.after (.poll : Timed.Event (Operation Service))).sweeper.finished = true ∧
      ((due.after (.poll : Timed.Event (Operation Service))).store.get "a/b").result =
        .ok { id := "a/b", expires := some .epoch }) ∧
    early.Silenced [.call (.record (.add .epoch { id := "a/b" })), .poll,
      .call (.record (.delete "a/b"))] ∧
    (∃ cause, session.apply (.startSweeper 0 false : Command Service) =
      ⟨.error (.error (.invalid cause)), session, []⟩) ∧
    (∃ cause, (Sweeper.spawn 0 0 {}).result = .error (.invalid cause)) ∧
    (Sweeper.spawn 0 0 {}).token = {} := by
  intro sweeper one due early session
  refine ⟨⟨by decide, ?_, by decide, by rfl⟩, ?_, ?_, ?_⟩
  · exact (cancellation_safe.2.1 ⟨0, .epoch, sweeper, _⟩ [.wait 1000000000 one] [.poll]
      ⟨100, [.add .epoch { id := "a/b" }], rfl⟩).1
  · exact (cancellation_safe.1 ⟨0, .epoch, sweeper, {}⟩ [] _ ⟨100, [], rfl⟩).1
  · exact (cancellation_safe.2.2.1 ServiceStore Service session).2 0 false |>.mpr (.inl rfl)
  · obtain ⟨hrefused, htoken⟩ := cancellation_safe.2.2.2 0 0 {}
    exact ⟨hrefused.mpr (.inl rfl), htoken⟩

end EdgeCatalog
