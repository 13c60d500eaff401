import Mathlib
import EdgeCatalog.Clock
import EdgeCatalog.Proofs.Instant.Arithmetic

/-! Runs of a clock that moves only when it is told to. After every move the clock reads the instant
to which it was last set, moved on by the sum of the spans by which it was advanced since; spans
that were refused do not count (`run_exact`). -/
namespace EdgeCatalog.Clock

variable {now start : Instant} {m : Move} {moves earlier later : List Move}

/-! ## One move -/

/-- The instant to which a move sets the clock. -/
def Move.target? : Move → Option Instant
  | .advance _ => none
  | .set instant => some instant

/-- How far a move advances the clock. -/
def Move.span : Move → Int
  | .advance span => span
  | .set _ => 0

/-- The reading after a move, and whether the move was made. -/
def step (now : Instant) (m : Move) : Instant × Bool :=
  match move now m with
  | some next => (next, true)
  | none => (now, false)

theorem step_set (now instant : Instant) : step now (.set instant) = (instant, true) := rfl

theorem step_refused (h : (step now m).2 = false) : (step now m).1 = now := by
  unfold step at h ⊢
  split
  · rename_i hmove
    rw [hmove] at h
    cases h
  · rfl

/-- An advance is refused just when it would lead out of the range. -/
theorem step_advance_refused_iff (h : ¬now.InLeapSecond) {span : Int} :
    (step now (.advance span)).2 = false ↔ ¬Instant.InRange (now.sinceEpoch + span) := by
  rw [← Instant.add?_eq_none_iff_sinceEpoch h, step, move]
  cases now.add? span <;> simp

theorem step_advance_made (h : ¬now.InLeapSecond) {span : Int}
    (hmade : (step now (.advance span)).2 = true) :
    ¬(step now (.advance span)).1.InLeapSecond ∧
      (step now (.advance span)).1.sinceEpoch = now.sinceEpoch + span := by
  rw [step, move] at hmade ⊢
  cases hadd : now.add? span with
  | none =>
    rw [hadd] at hmade
    cases hmade
  | some next => exact (Instant.add?_eq_some_iff_sinceEpoch h).mp hadd

/-! ## Runs -/

/-- What a clock reads after a list of moves. -/
def reading (start : Instant) (moves : List Move) : Instant :=
  ((run start moves).getLast?.map Prod.fst).getD start

/-- The moves, each with whether it was made. -/
def taken (start : Instant) (moves : List Move) : List (Move × Bool) :=
  moves.zip ((run start moves).map Prod.snd)

/-- The instant to which a clock was last set, or its start. -/
def lastSet (start : Instant) (moves : List Move) : Instant :=
  (moves.filterMap Move.target?).getLast?.getD start

/-- How far the advances that were made have led since the clock was last set. -/
def travelled (taken : List (Move × Bool)) : Int :=
  (((taken.rtakeWhile (·.1.target?.isNone)).filter (·.2)).map (·.1.span)).sum

theorem run_cons (now : Instant) (m : Move) (rest : List Move) :
    run now (m :: rest) = step now m :: run (step now m).1 rest := by
  rw [run, step]
  cases move now m <;> rfl

theorem length_run (now : Instant) (moves : List Move) :
    (run now moves).length = moves.length := by
  induction moves generalizing now with
  | nil => rfl
  | cons m rest ih => rw [run_cons, List.length_cons, List.length_cons, ih]

theorem reading_cons (now : Instant) (m : Move) (rest : List Move) :
    reading now (m :: rest) = reading (step now m).1 rest := by
  rw [reading, run_cons, List.getLast?_cons, reading]
  cases (run (step now m).1 rest).getLast? <;> rfl

/-- Later moves go on from the reading that the earlier ones leave. -/
theorem run_append (now : Instant) (earlier later : List Move) :
    run now (earlier ++ later) = run now earlier ++ run (reading now earlier) later := by
  induction earlier generalizing now with
  | nil => rfl
  | cons m rest ih => rw [List.cons_append, run_cons, run_cons, ih, reading_cons, List.cons_append]

theorem run_singleton (now : Instant) (m : Move) : run now [m] = [step now m] :=
  run_cons now m []

theorem reading_concat (start : Instant) (moves : List Move) (m : Move) :
    reading start (moves ++ [m]) = (step (reading start moves) m).1 := by
  rw [reading, run_append, run_singleton, List.getLast?_concat]
  rfl

theorem taken_concat (start : Instant) (moves : List Move) (m : Move) :
    taken start (moves ++ [m]) = taken start moves ++ [(m, (step (reading start moves) m).2)] := by
  rw [taken, run_append, run_singleton, List.map_append,
    List.zip_append (by rw [List.length_map, length_run])]
  rfl

theorem lastSet_concat (start : Instant) (moves : List Move) (m : Move) :
    lastSet start (moves ++ [m]) = m.target?.getD (lastSet start moves) := by
  rw [lastSet, List.filterMap_append]
  cases m with
  | advance span => simp [Move.target?, lastSet]
  | set instant => simp [Move.target?]

theorem travelled_concat_set (done : List (Move × Bool)) (instant : Instant) (made : Bool) :
    travelled (done ++ [(.set instant, made)]) = 0 := by
  rw [travelled, List.rtakeWhile_concat]
  rfl

theorem travelled_concat_advance (done : List (Move × Bool)) (span : Int) (made : Bool) :
    travelled (done ++ [(.advance span, made)]) =
      travelled done + if made then span else 0 := by
  have hadvance : (Move.advance span, made).1.target?.isNone = true := rfl
  rw [travelled, List.rtakeWhile_concat, if_pos hadvance, List.filter_append, List.map_append,
    List.sum_append, travelled]
  cases made <;> simp [Move.span]

/-- A clock that starts outside of leap seconds and is never set into one stays outside of them, and
reads what its moves come to. -/
theorem reading_exact (hstart : ¬start.InLeapSecond)
    (hset : ∀ instant, .set instant ∈ moves → ¬instant.InLeapSecond) :
    ¬(reading start moves).InLeapSecond ∧ (reading start moves).sinceEpoch =
      (lastSet start moves).sinceEpoch + travelled (taken start moves) := by
  induction moves using List.reverseRecOn with
  | nil => exact ⟨hstart, (Int.add_zero _).symm⟩
  | append_singleton moves m ih =>
    obtain ⟨hnow, hreading⟩ := ih fun instant hin => hset instant (List.mem_append_left _ hin)
    rw [reading_concat, taken_concat, lastSet_concat]
    cases m with
    | set instant =>
      rw [step_set, travelled_concat_set, Int.add_zero]
      exact ⟨hset instant (by simp), rfl⟩
    | advance span =>
      rw [travelled_concat_advance]
      show _ ∧ _ = (lastSet start moves).sinceEpoch + _
      cases hmade : (step (reading start moves) (.advance span)).2 with
      | false =>
        rw [step_refused hmade, if_neg Bool.false_ne_true, Int.add_zero]
        exact ⟨hnow, hreading⟩
      | true =>
        obtain ⟨hnext, hspan⟩ := step_advance_made hnow hmade
        rw [hspan, hreading, if_pos rfl, Int.add_assoc]
        exact ⟨hnext, rfl⟩

/-- What is known of a clock after a move that follows earlier ones: its reading, and whether the
move was made. -/
structure Follows (start : Instant) (earlier : List Move) (m : Move) (next : Instant)
    (made : Bool) : Prop where
  /-- The reading is in the range. -/
  inRange : ¬next.InLeapSecond ∧ Instant.InRange next.sinceEpoch
  /-- It is as far from the instant to which the clock was last set as the advances that were made
  since have led. -/
  exact : next.sinceEpoch = (lastSet start (earlier ++ [m])).sinceEpoch +
    travelled (taken start (earlier ++ [m]))
  /-- The clock can be set to every instant. -/
  set : ∀ instant, m = .set instant → made = true ∧ next = instant
  /-- An advance is refused just when it would lead out of the range, -/
  refused : ∀ span, m = .advance span →
    (made = false ↔ ¬Instant.InRange ((reading start earlier).sinceEpoch + span))
  /-- and then the clock reads what it read before. -/
  stays : made = false → next = reading start earlier

/-- Every move of a run follows the ones before it, and those behind it go on from its reading. -/
theorem run_exact (hstart : ¬start.InLeapSecond)
    (hset : ∀ instant, .set instant ∈ moves → ¬instant.InLeapSecond)
    (hmoves : moves = earlier ++ m :: later) :
    ∃ next made, run start moves = run start earlier ++ (next, made) :: run next later ∧
      Follows start earlier m next made := by
  obtain rfl := hmoves
  have hearlier : ∀ instant, .set instant ∈ earlier → ¬instant.InLeapSecond :=
    fun instant hin => hset instant (List.mem_append_left _ hin)
  have hboth : ∀ instant, .set instant ∈ earlier ++ [m] → ¬instant.InLeapSecond := by
    intro instant hin
    refine hset instant ?_
    rcases List.mem_append.mp hin with hin | hin
    · exact List.mem_append_left _ hin
    · rw [List.mem_singleton.mp hin]
      exact List.mem_append_right _ List.mem_cons_self
  obtain ⟨hnow, -⟩ := reading_exact hstart hearlier
  obtain ⟨hnext, hexact⟩ := reading_exact hstart hboth
  rw [reading_concat] at hnext hexact
  refine ⟨_, _, by rw [run_append, run_cons], ⟨hnext, Instant.inRange_sinceEpoch hnext⟩, hexact,
    ?_, ?_, step_refused⟩
  · rintro instant rfl
    exact ⟨rfl, rfl⟩
  · rintro span rfl
    exact step_advance_refused_iff hnow

/-- At the end of the range a nanosecond is refused; after that the clock is set, and goes back. -/
theorem run_exact_end_of_range :
    let start := Instant.of Instant.lastSecond 500000000
    let earlier := [.advance 499999999, .advance 1, .set .epoch]
    let moves := earlier ++ [.advance (-1500000000)]
    run start moves = [(.of Instant.lastSecond 999999999, true),
      (.of Instant.lastSecond 999999999, false), (.epoch, true), (.of (-2) 500000000, true)] ∧
    ∃ next made, run start moves = run start earlier ++ (next, made) :: run next [] ∧
      Follows start earlier (.advance (-1500000000)) next made := by
  intro start earlier moves
  have hset : ∀ instant, .set instant ∈ moves → ¬instant.InLeapSecond := by
    intro instant hin
    obtain rfl : instant = .epoch := by simpa [moves, earlier] using hin
    decide
  exact ⟨by decide, run_exact (by decide) hset rfl⟩

end EdgeCatalog.Clock
