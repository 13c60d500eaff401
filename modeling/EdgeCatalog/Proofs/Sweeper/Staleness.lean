import Mathlib
import EdgeCatalog.Proofs.Instant.Arithmetic
import EdgeCatalog.Proofs.Sweeper.Ageing
import EdgeCatalog.Proofs.Sweeper.Timed

/-! How long a record outlives its expiry while a sweeper runs on time: less than one interval
(`staleness_bounded`). What carries the proof is that no stored record was due at the last sweep,
which holds from the spawn on: a record that a caller stores is due no earlier than it is stored, and
a sweep takes out all that is due. A clock that was set back before the spawn may leave out a leap
second in which a record is due; what holds then is `bounded_after_setback`. -/
namespace EdgeCatalog

namespace Timed

variable {σ κ ε : Type} [CallStore σ κ ε] {start t : Timed σ} {e : Event κ}

/-! ## The schedule -/

/-- Where the sweeper stands in a run on time: the next sweep is still to come, and it is at most an
interval away. -/
structure Scheduled (interval : Nat) (t : Timed σ) : Prop where
  active : t.sweeper.Active
  interval_eq : t.sweeper.interval = interval
  timer_le : t.timer ≤ t.sweeper.nextTick
  nextTick_le : t.sweeper.nextTick ≤ t.timer + interval

/-- The time since the last sweep, or since the spawn as long as there was none. -/
def elapsed (interval : Nat) (t : Timed σ) : Nat :=
  t.timer + interval - t.sweeper.nextTick

namespace Scheduled

variable {interval : Nat}

/-- A sweep that is made in time is made when it is due. -/
theorem timer_eq (h : t.Scheduled interval) (hdue : t.sweeper.Due t.timer) :
    t.timer = t.sweeper.nextTick :=
  Nat.le_antisymm h.timer_le hdue.2

/-- As long as the sweeper is active, a look at the timer too early changes nothing. -/
theorem after_poll (h : t.Scheduled interval) (hdue : ¬t.sweeper.Due t.timer) :
    t.after (.poll : Event κ) = t := by
  have hnotice : ¬(t.sweeper.cancelled = true ∧ ¬t.sweeper.finished = true) :=
    fun hcancelled => h.active (.inr hcancelled.1)
  rw [after_poll_of_not_due hdue, Sweeper.notice, if_neg hnotice]

theorem after [Perishable ε] (h : t.Scheduled interval) (he : t.Undisturbed e) :
    (t.after e).Scheduled interval := by
  cases e with
  | call c => exact ⟨h.active, h.interval_eq, h.timer_le, h.nextTick_le⟩
  | wait span reading =>
    have hlate := h.nextTick_le
    refine ⟨h.active, h.interval_eq, he.2, ?_⟩
    show t.sweeper.nextTick ≤ t.timer + span + interval
    omega
  | cancel => exact he.elim
  | poll =>
    by_cases hdue : t.sweeper.Due t.timer
    · have htick := h.timer_eq hdue
      have hnext := Sweeper.nextTick_ticked htick.le
      rw [h.interval_eq] at hnext
      rw [after_poll_of_due hdue]
      refine ⟨h.active, h.interval_eq, ?_, ?_⟩
      · show t.timer ≤ (t.sweeper.ticked t.timer).nextTick
        omega
      · show (t.sweeper.ticked t.timer).nextTick ≤ t.timer + interval
        omega
    · rwa [h.after_poll hdue]

end Scheduled

/-! ## The invariant -/

variable [Perishable ε]

/-- What holds throughout a run on time. The clock has gone on as the timer has, from the spawn and
from its reading `last` at the last sweep (or at the spawn, as long as there was none), and no record
was due then. -/
structure Punctual (valid : σ → Prop) (records : σ → Table ε) (start t : Timed σ) (last : Instant) :
    Prop where
  store : valid t.store
  scheduled : t.Scheduled start.sweeper.interval
  along : ∃ span : Nat, start.clock.add? span = some t.clock
  start_le : start.clock ≤ last
  since : last.add? (elapsed start.sweeper.interval t) = some t.clock
  /-- Records that were overdue at the spawn apart. -/
  last_le : ∀ {id r due}, (records t.store).get? id = some r → 0 ≤ Perishable.ttl r →
    Perishable.expires r = some due → start.clock ≤ due → last ≤ due
  /-- A record that was stored since the spawn is due at an instant that the clock goes through. -/
  later : ∀ {id r due}, (records t.store).get? id = some r → 0 ≤ Perishable.ttl r →
    Perishable.expires r = some due → (records start.store).get? id ≠ some r →
    start.clock ≤ due ∧ ¬start.clock.Skips due

variable {valid : σ → Prop} {records : σ → Table ε} {last : Instant}

theorem punctual_spawn {timer interval : Nat} {clock : Instant} {sweeper : Sweeper} {store : σ}
    (hspawn : (Sweeper.spawn timer interval {}).result = .ok sweeper) (hs : valid store) :
    Punctual valid records ⟨timer, clock, sweeper, store⟩ ⟨timer, clock, sweeper, store⟩ clock := by
  obtain ⟨rfl, htick, hcancelled, hfinished⟩ := Sweeper.spawn_eq_ok hspawn
  constructor
  case store => exact hs
  case scheduled =>
    refine ⟨?_, rfl, ?_, htick.le⟩
    · simp [Sweeper.Active, hcancelled, hfinished]
    · rw [htick]
      exact Nat.le_add_right _ _
  case along => exact ⟨0, Instant.add?_zero clock⟩
  case start_le => exact le_refl clock
  case since =>
    have hnone : elapsed sweeper.interval ⟨timer, clock, sweeper, store⟩ = 0 := by
      rw [elapsed, htick, Nat.sub_self]
    rw [hnone]
    exact Instant.add?_zero clock
  case last_le => exact fun _ _ _ hle => hle
  case later => exact fun hr _ _ hnew => absurd hr hnew

namespace Punctual

theorem wait (h : Punctual valid records start t last) {span : Nat} {reading : Instant}
    (he : t.Undisturbed (.wait span reading : Event κ)) :
    Punctual valid records start (t.after (.wait span reading : Event κ)) last := by
  obtain ⟨before, halong⟩ := h.along
  have hnext := h.scheduled.nextTick_le
  have hsince := Instant.add?_add (Int.natCast_nonneg _) (Int.natCast_nonneg span) h.since he.1
  constructor
  case store => exact h.store
  case scheduled => exact h.scheduled.after he
  case along =>
    refine ⟨before + span, ?_⟩
    rw [Nat.cast_add]
    exact Instant.add?_add (Int.natCast_nonneg before) (Int.natCast_nonneg span) halong he.1
  case start_le => exact h.start_le
  case since =>
    have helapsed : elapsed start.sweeper.interval (t.after (.wait span reading : Event κ)) =
        elapsed start.sweeper.interval t + span := by
      show t.timer + span + _ - t.sweeper.nextTick = t.timer + _ - t.sweeper.nextTick + span
      omega
    rw [helapsed, Nat.cast_add]
    exact hsince
  case last_le => exact h.last_le
  case later => exact h.later

variable [Dated ε]

/-- What a caller stores is due no earlier than it is stored, so not before the last sweep, and at an
instant that the clock goes through. -/
theorem due_of_put (ages : CallStore.Ages (κ := κ) valid records)
    (h : Punctual valid records start t last) {c : κ} (he : t.Undisturbed (.call c)) {id : String}
    {r : ε} {due : Instant} (hput : CallStore.effect t.store c = .put id r)
    (hdue : Perishable.expires r = some due) :
    last ≤ due ∧ start.clock ≤ due ∧ ¬start.clock.Skips due := by
  obtain ⟨operation, now, entry, hshared, hstores, -, hexpires⟩ := ages.stamped h.store hput
  obtain rfl := he operation hshared id now entry hstores
  rw [hdue] at hexpires
  obtain ⟨life, hlife, hreach⟩ := Expiry.exists_add?_eq hexpires
  -- the clock got here from the spawn, and from here it goes on to where the record is due
  obtain ⟨span, halong⟩ := h.along
  have hspan : (0 : Int) ≤ span := Int.natCast_nonneg span
  have hfrom := Instant.add?_add hspan hlife halong hreach
  have hnow : last ≤ t.clock := Instant.le_of_add? (Int.natCast_nonneg _) h.since
  exact ⟨hnow.trans (Instant.le_of_add? hlife hreach),
    Instant.le_of_add? (Int.add_nonneg hspan hlife) hfrom,
    Instant.not_skips_of_add? (Int.add_nonneg hspan hlife) hfrom⟩

theorem call (ages : CallStore.Ages (κ := κ) valid records)
    (h : Punctual valid records start t last) {c : κ} (he : t.Undisturbed (.call c)) :
    Punctual valid records start (t.after (.call c)) last := by
  have hrecords := ages.records_call h.store c
  constructor
  case store => exact ages.valid_call h.store c
  case scheduled => exact h.scheduled.after he
  case along => exact h.along
  case start_le => exact h.start_le
  case since => exact h.since
  case last_le =>
    intro id r due hr hpos hdue hle
    rcases Effect.get?_of_get?_apply (hrecords ▸ hr) with hold | hput
    · exact h.last_le hold hpos hdue hle
    · exact (h.due_of_put ages he hput hdue).1
  case later =>
    intro id r due hr hpos hdue hnew
    rcases Effect.get?_of_get?_apply (hrecords ▸ hr) with hold | hput
    · exact h.later hold hpos hdue hnew
    · exact (h.due_of_put ages he hput hdue).2

/-- After a sweep, the reading of the clock at the sweep takes the place of the last one. -/
theorem sweep (ages : CallStore.Ages (κ := κ) valid records)
    (h : Punctual valid records start t last) (hdue : t.sweeper.Due t.timer) :
    Punctual valid records start (t.after (.poll : Event κ)) t.clock := by
  obtain ⟨span, halong⟩ := h.along
  have htick := h.scheduled.timer_eq hdue
  obtain ⟨hvalid, hrecords⟩ := ages.swept h.store t.clock
  have hscheduled := h.scheduled.after (e := (.poll : Event κ)) trivial
  rw [after_poll_of_due hdue] at hscheduled ⊢
  constructor
  case store => exact hvalid
  case scheduled => exact hscheduled
  case along => exact ⟨span, halong⟩
  case start_le => exact Instant.le_of_add? (Int.natCast_nonneg span) halong
  case since =>
    have hnext := Sweeper.nextTick_ticked htick.le
    rw [h.scheduled.interval_eq] at hnext
    have hnone : t.timer + start.sweeper.interval - (t.sweeper.ticked t.timer).nextTick = 0 := by
      omega
    rw [elapsed, hnone]
    exact Instant.add?_zero t.clock
  case last_le =>
    intro id r due hr hpos hexpires _
    obtain ⟨-, hkept⟩ := Effect.get?_apply_sweep.mp (hrecords ▸ hr)
    rw [hexpires, Expiry.isExpired_some hpos, decide_eq_false_iff_not] at hkept
    exact le_of_not_ge hkept
  case later =>
    intro id r due hr
    exact h.later (Effect.get?_apply_sweep.mp (hrecords ▸ hr)).1

theorem after (ages : CallStore.Ages (κ := κ) valid records)
    (h : Punctual valid records start t last) (he : t.Undisturbed e) :
    ∃ last, Punctual valid records start (t.after e) last := by
  cases e with
  | call c => exact ⟨last, h.call ages he⟩
  | wait span reading => exact ⟨last, h.wait he⟩
  | cancel => exact he.elim
  | poll =>
    by_cases hdue : t.sweeper.Due t.timer
    · exact ⟨t.clock, h.sweep ages hdue⟩
    · rw [h.scheduled.after_poll hdue]
      exact ⟨last, h⟩

theorem run (ages : CallStore.Ages (κ := κ) valid records)
    (h : Punctual valid records start t last) {events : List (Event κ)} (hontime : t.OnTime events) :
    ∃ last, Punctual valid records start (t.run events) last := by
  induction events generalizing t last with
  | nil => exact ⟨last, h⟩
  | cons e rest ih =>
    obtain ⟨last, h⟩ := h.after ages hontime.1
    exact ih h hontime.2

end Punctual

/-! ## The bound -/

/-- What a sweeper that runs on time is good for. -/
structure StalenessBounded (start : Timed σ) (events : List (Event κ)) : Prop where
  /-- Once all sweeps that are due have been made, every record has been overdue for less than an
  interval, unless it was overdue already when the sweeper was spawned. -/
  fresh : (start.run events).timer < (start.run events).sweeper.nextTick →
    ∀ id r, (RecordStore.get (start.run events).store id).result = .ok r → 0 ≤ Perishable.ttl r →
      ∃ due, Perishable.expires r = some due ∧
        (((RecordStore.get start.store id).result = .ok r → start.clock ≤ due) →
          ∀ limit, due.add? start.sweeper.interval = some limit → (start.run events).clock < limit)
  /-- A sweep is made when it is due, and removes nothing that is not due. -/
  swept : ∀ before later, events = before ++ .poll :: later → ∀ id r,
    (RecordStore.get (start.run before).store id).result = .ok r →
    (RecordStore.get ((start.run before).after (.poll : Event κ)).store id).result ≠ .ok r →
    (start.run before).timer = (start.run before).sweeper.nextTick ∧ 0 ≤ Perishable.ttl r ∧
      ∃ due, Perishable.expires r = some due ∧ due ≤ (start.run before).clock

section Record

variable {id : String} {r : ε} {due limit : Instant}

namespace Punctual

/-- A record is due no earlier than the sweeper was spawned, unless it was overdue then. -/
theorem start_le_due (h : Punctual valid records start t last)
    (hr : (records t.store).get? id = some r) (hpos : 0 ≤ Perishable.ttl r)
    (hdue : Perishable.expires r = some due)
    (hearly : (records start.store).get? id = some r → start.clock ≤ due) : start.clock ≤ due := by
  by_cases hold : (records start.store).get? id = some r
  · exact hearly hold
  · exact (h.later hr hpos hdue hold).1

/-- Less than an interval has passed since the last sweep. -/
theorem elapsed_lt (h : Punctual valid records start t last)
    (hmade : t.timer < t.sweeper.nextTick) :
    (elapsed start.sweeper.interval t : Int) < start.sweeper.interval := by
  have hnext := h.scheduled.nextTick_le
  rw [elapsed]
  omega

theorem clock_lt (h : Punctual valid records start t last)
    (hmade : t.timer < t.sweeper.nextTick) (hr : (records t.store).get? id = some r)
    (hpos : 0 ≤ Perishable.ttl r) (hdue : Perishable.expires r = some due)
    (hle : start.clock ≤ due) (hgoes : ¬start.clock.Skips due)
    (hlimit : due.add? start.sweeper.interval = some limit) : t.clock < limit := by
  have hlast : last ≤ due := h.last_le hr hpos hdue hle
  exact Instant.add?_lt_add? hlast (Instant.not_skips_of_le h.start_le hlast hgoes)
    (Int.natCast_nonneg _) (h.elapsed_lt hmade) h.since hlimit

/-- The same, with the end of the second in which the record is due in the place of its expiry,
whether or not the clock goes through that. -/
theorem clock_lt_of_second (h : Punctual valid records start t last)
    (hmade : t.timer < t.sweeper.nextTick) (hr : (records t.store).get? id = some r)
    (hpos : 0 ≤ Perishable.ttl r) (hdue : Perishable.expires r = some due)
    (hle : start.clock ≤ due)
    (hlimit : Instant.ofNanos? (due.second + 1) start.sweeper.interval = some limit) :
    t.clock < limit :=
  Instant.add?_lt_ofNanos? (h.last_le hr hpos hdue hle) (Int.natCast_nonneg _)
    (h.elapsed_lt hmade) h.since hlimit

end Punctual

variable [Dated ε]

/-- A clock that is not behind the reading at which a record was stored does not skip its expiry. -/
theorem not_skips_of_updated_le {start : Instant}
    (hexpires : Expiry.expiryFor (Dated.updated r) (Perishable.ttl r) = .ok (some due))
    (hupdated : Dated.updated r ≤ start) (hle : start ≤ due) : ¬start.Skips due := by
  obtain ⟨life, hlife, hreach⟩ := Expiry.exists_add?_eq hexpires
  exact Instant.not_skips_of_le hupdated hle (Instant.not_skips_of_add? hlife hreach)

/-- The clock goes through the expiry of a record that was not stored at a later reading. -/
theorem Punctual.not_skips (ages : CallStore.Ages (κ := κ) valid records)
    (h : Punctual valid records start t last) (hr : (records t.store).get? id = some r)
    (hpos : 0 ≤ Perishable.ttl r) (hdue : Perishable.expires r = some due)
    (hle : start.clock ≤ due)
    (hstamped : (records start.store).get? id = some r → Dated.updated r ≤ start.clock) :
    ¬start.clock.Skips due := by
  by_cases hold : (records start.store).get? id = some r
  · have hexpires := ages.storable h.store hr
    rw [hdue] at hexpires
    exact not_skips_of_updated_le hexpires (hstamped hold) hle
  · exact (h.later hr hpos hdue hold).2

/-- A look at the timer takes out only what is due, and only when a sweep is. -/
theorem Punctual.due_of_swept (ages : CallStore.Ages (κ := κ) valid records)
    (h : Punctual valid records start t last) (hr : (records t.store).get? id = some r)
    (hgone : (records (t.after (.poll : Event κ)).store).get? id ≠ some r) :
    t.timer = t.sweeper.nextTick ∧ 0 ≤ Perishable.ttl r ∧
      ∃ due, Perishable.expires r = some due ∧ due ≤ t.clock := by
  by_cases hdue : t.sweeper.Due t.timer
  · rw [after_poll_of_due hdue, (ages.swept h.store t.clock).2, Ne, Effect.get?_apply_sweep] at hgone
    have hexpired : Expiry.isExpired (Perishable.ttl r) (Perishable.expires r) t.clock = true := by
      rw [← Bool.not_eq_false]
      exact fun hkept => hgone ⟨hr, hkept⟩
    exact ⟨h.scheduled.timer_eq hdue, Expiry.isExpired_iff.mp hexpired⟩
  · rw [h.scheduled.after_poll hdue] at hgone
    exact absurd hr hgone

end Record

variable [Dated ε]

section Run

variable {timer interval : Nat} {clock : Instant} {sweeper : Sweeper} {store : σ}
  {events : List (Event κ)}

/-- A run on time from a spawn is punctual throughout. -/
theorem punctual_run (ages : CallStore.Ages (κ := κ) valid records) (hs : valid store)
    (hspawn : (Sweeper.spawn timer interval {}).result = .ok sweeper)
    (hontime : OnTime ⟨timer, clock, sweeper, store⟩ events) :
    ∃ last, Punctual valid records ⟨timer, clock, sweeper, store⟩
      (run ⟨timer, clock, sweeper, store⟩ events) last :=
  (punctual_spawn hspawn hs).run ages hontime

theorem stalenessBounded (ages : CallStore.Ages (κ := κ) valid records) (hs : valid store)
    (hstamped : RecordStore.StampedBy store clock)
    (hspawn : (Sweeper.spawn timer interval {}).result = .ok sweeper)
    (hontime : OnTime ⟨timer, clock, sweeper, store⟩ events) :
    StalenessBounded ⟨timer, clock, sweeper, store⟩ events := by
  constructor
  case fresh =>
    intro hmade id r hr hpos
    obtain ⟨last, h⟩ := punctual_run ages hs hspawn hontime
    rw [ages.get h.store] at hr
    obtain ⟨due, -, hdue⟩ := Expiry.expires_of_nonneg (ages.storable h.store hr) hpos
    refine ⟨due, hdue, fun hearly limit hlimit => ?_⟩
    rw [ages.get hs] at hearly
    have hle : clock ≤ due := h.start_le_due hr hpos hdue hearly
    have hgoes : ¬clock.Skips due := by
      refine h.not_skips ages hr hpos hdue hle fun hold => ?_
      exact hstamped id r ((ages.get hs id r).mpr hold)
    exact h.clock_lt hmade hr hpos hdue hle hgoes hlimit
  case swept =>
    rintro before later rfl id r hr hgone
    obtain ⟨last, h⟩ := punctual_run ages hs hspawn (onTime_append.mp hontime).1
    obtain ⟨last', h'⟩ := h.after (e := (.poll : Event κ)) ages trivial
    rw [ages.get h.store] at hr
    rw [Ne, ages.get h'.store] at hgone
    exact h.due_of_swept ages hr hgone

/-- What is left of the bound when the clock was set back before the sweeper was spawned. A record
may then be due within a leap second that the clock does not go through any more, and the interval
counts from the end of that second. -/
theorem bounded_after_setback (ages : CallStore.Ages (κ := κ) valid records) (hs : valid store)
    (hspawn : (Sweeper.spawn timer interval {}).result = .ok sweeper)
    (hontime : OnTime ⟨timer, clock, sweeper, store⟩ events)
    (hmade : (run ⟨timer, clock, sweeper, store⟩ events).timer <
      (run ⟨timer, clock, sweeper, store⟩ events).sweeper.nextTick) {id : String} {r : ε}
    (hr : (RecordStore.get (run ⟨timer, clock, sweeper, store⟩ events).store id).result = .ok r)
    (hpos : 0 ≤ Perishable.ttl r) {due limit : Instant} (hdue : Perishable.expires r = some due)
    (hearly : (RecordStore.get store id).result = .ok r → clock ≤ due)
    (hlimit : Instant.ofNanos? (due.second + 1) interval = some limit) :
    (run ⟨timer, clock, sweeper, store⟩ events).clock < limit := by
  obtain ⟨last, h⟩ := punctual_run ages hs hspawn hontime
  rw [ages.get h.store] at hr
  rw [ages.get hs] at hearly
  obtain ⟨rfl, -⟩ := Sweeper.spawn_eq_ok hspawn
  exact h.clock_lt_of_second hmade hr hpos hdue (h.start_le_due hr hpos hdue hearly) hlimit

end Run

end Timed

/-- While a sweeper runs on time and undisturbed, with a clock that goes as the timer does and has
not been set back before, whatever callers do in between: once all sweeps that are due have been
made, no record is overdue by an interval or more, and a sweep removes nothing that is not due. -/
theorem staleness_bounded :
    (∀ (s : DeviceStore) (timer interval : Nat) (clock : Instant) (sweeper : Sweeper)
        (events : List (Timed.Event DeviceCall)),
      s.Reachable → RecordStore.StampedBy s clock →
      (Sweeper.spawn timer interval {}).result = .ok sweeper →
      Timed.OnTime ⟨timer, clock, sweeper, s⟩ events →
      Timed.StalenessBounded ⟨timer, clock, sweeper, s⟩ events) ∧
    (∀ (s : ServiceStore) (timer interval : Nat) (clock : Instant) (sweeper : Sweeper)
        (events : List (Timed.Event (Operation Service))),
      s.Reachable → RecordStore.StampedBy s clock →
      (Sweeper.spawn timer interval {}).result = .ok sweeper →
      Timed.OnTime ⟨timer, clock, sweeper, s⟩ events →
      Timed.StalenessBounded ⟨timer, clock, sweeper, s⟩ events) :=
  ⟨fun _ _ _ _ _ _ hs hstamped hspawn hontime =>
      Timed.stalenessBounded DeviceStore.ages hs hstamped hspawn hontime,
    fun _ _ _ _ _ _ hs hstamped hspawn hontime =>
      Timed.stalenessBounded ServiceStore.ages hs hstamped hspawn hontime⟩

/-- A device that is to live for no time at all, stored at the very instant of a sweep and before it
is made; and a registration stored in the middle between two sweeps, beside one that was stored
before the sweeper was spawned. -/
theorem staleness_bounded_ties :
    let sweeper : Sweeper :=
      { interval := 2000000000, nextTick := 2000000000, interval_pos := by decide }
    let one := Instant.of 1 0
    let two := Instant.of 2 0
    let s := ServiceStore.run {} [.add .epoch { id := "a/c", ttl := 1 }]
    Timed.StalenessBounded ⟨0, .epoch, sweeper, ({} : DeviceStore)⟩
      [.wait 2000000000 two, .call (.record (.add two { id := "a/b" })), .poll] ∧
    Timed.StalenessBounded ⟨0, .epoch, sweeper, s⟩
      [.wait 1000000000 one, .call (.add one { id := "a/b" }), .wait 1000000000 two, .poll] := by
  intro sweeper one two s
  constructor
  · have hs : ({} : DeviceStore).Reachable := ⟨100, [], rfl⟩
    have hstamped : RecordStore.StampedBy ({} : DeviceStore) .epoch := by
      intro id r hr
      cases hr
    refine staleness_bounded.1 {} 0 2000000000 .epoch sweeper _ hs hstamped (by decide) ?_
    refine ⟨⟨by decide, by decide⟩, ?_, trivial, trivial⟩
    rintro operation hshared id now entry hstores
    obtain rfl := Option.some.inj hshared
    cases hstores
    rfl
  · have hstamped : RecordStore.StampedBy s .epoch := by
      refine RecordStore.StampedBy.run ServiceStore.ages (s := {}) ⟨100, [], rfl⟩ ?_ ?_
      · intro id r hr
        cases hr
      · rintro c hc operation hshared id reading entry hstores
        obtain rfl := List.mem_singleton.mp hc
        obtain rfl := Option.some.inj hshared
        cases hstores
        exact le_refl _
    refine staleness_bounded.2 s 0 2000000000 .epoch sweeper _ ⟨100, _, rfl⟩ hstamped (by decide) ?_
    refine ⟨⟨by decide, by decide⟩, ?_, ⟨by decide, by decide⟩, trivial, trivial⟩
    rintro operation hshared id now entry hstores
    obtain rfl := Option.some.inj hshared
    cases hstores
    rfl

/-- A registration that is due within a leap second, in a store whose clock was then set back to
before it and does not go through it: more than an interval after it was due, and with all sweeps
made, it is still there, though not for an interval after the end of that second. -/
theorem overdue_after_leap_second :
    let leap := Instant.of 1483228799 1500000000
    let back := Instant.of 1483228799 600000000
    let tick := Instant.of 1483228799 900000000
    let now := Instant.of 1483228800 100000000
    let sweeper : Sweeper :=
      { interval := 300000000, nextTick := 300000000, interval_pos := by decide }
    let r : Service := { id := "a/b", created := leap, updated := leap, expires := some leap }
    let s := ServiceStore.run {} [.add leap { id := "a/b" }]
    let start : Timed ServiceStore := ⟨0, back, sweeper, s⟩
    let events : List (Timed.Event (Operation Service)) :=
      [.wait 300000000 tick, .poll, .wait 200000000 now]
    (s.Reachable ∧ (Sweeper.spawn 0 300000000 {}).result = .ok sweeper ∧ start.OnTime events ∧
      (start.run events).timer < (start.run events).sweeper.nextTick) ∧
    ((s.get "a/b").result = .ok r ∧ r.isExpired back = false) ∧
    ((start.run events).store.get "a/b").result = .ok r ∧
    (∃ limit, leap.add? 300000000 = some limit ∧ limit < (start.run events).clock) ∧
    (start.run events).clock < Instant.of 1483228800 300000000 := by
  refine ⟨⟨?stored, ?spawned, ?inTime, ?made⟩, ⟨by rfl, by decide⟩, ?left, ?late, ?bounded⟩
  case bounded =>
    exact Timed.bounded_after_setback ServiceStore.ages ?stored ?spawned ?inTime ?made ?left
      (by decide) rfl (fun _ => by decide) (by decide)
  case stored => exact ⟨100, _, rfl⟩
  case spawned => decide
  case inTime => exact ⟨⟨by decide, by decide⟩, trivial, ⟨by decide, by decide⟩, trivial⟩
  case made => decide
  case left => rfl
  case late => exact ⟨Instant.of 1483228799 1800000000, by decide, by decide⟩

end EdgeCatalog
