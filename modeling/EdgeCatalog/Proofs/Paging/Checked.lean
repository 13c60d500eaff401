import Mathlib
import EdgeCatalog.Proofs.Paging

/-! Paging without overflow. The window is computed once more over operations that can be chosen:
with words that wrap around it is the window itself, and with words that refuse to overflow nothing
is refused, unless there are as many keys as the greatest word. What is shown is then the stretch
of the list that unbounded integers give. -/
namespace EdgeCatalog.Paging

variable {α : Type} {keys : List α} {page perPage maxPerPage : UInt64}

/-! ## Operations on words -/

/-- What can go wrong in an operation on words, or in cutting a slice. -/
inductive Fault
  | overflow
  | divisionByZero
  | outOfRange
  deriving DecidableEq

/-- The operations that a window is computed with. -/
structure Operations (m : Type → Type) where
  div : UInt64 → UInt64 → m UInt64
  add : UInt64 → UInt64 → m UInt64
  sub : UInt64 → UInt64 → m UInt64
  mul : UInt64 → UInt64 → m UInt64
  cut {α : Type} : List α → UInt64 → UInt64 → m (List α)

namespace Operations

/-- Words wrap around, and a slice has what there is between its ends. -/
def wrapping : Operations Id where
  div a b := a / b
  add a b := a + b
  sub a b := a - b
  mul a b := a * b
  cut keys start stop := slice keys start stop

/-- An operation is refused if its result is not that of unbounded integers, and a slice if it ends
before it starts or after the list does. -/
def checked : Operations (Except Fault) where
  div a b := if b = 0 then .error .divisionByZero else pure (a / b)
  add a b := if a.toNat + b.toNat < 2 ^ 64 then pure (a + b) else .error .overflow
  sub a b := if b ≤ a then pure (a - b) else .error .overflow
  mul a b := if a.toNat * b.toNat < 2 ^ 64 then pure (a * b) else .error .overflow
  cut keys start stop :=
    if start ≤ stop ∧ stop.toNat ≤ keys.length then pure (slice keys start stop)
    else .error .outOfRange

variable {a b : UInt64}

theorem checked_div (h : b ≠ 0) : checked.div a b = pure (a / b) :=
  if_neg h

theorem checked_add (h : a.toNat + b.toNat < 2 ^ 64) : checked.add a b = pure (a + b) :=
  if_pos h

theorem checked_sub (h : b ≤ a) : checked.sub a b = pure (a - b) :=
  if_pos h

theorem checked_mul (h : a.toNat * b.toNat < 2 ^ 64) : checked.mul a b = pure (a * b) :=
  if_pos h

theorem checked_cut {start stop : UInt64} (hle : start ≤ stop) (hin : stop.toNat ≤ keys.length) :
    checked.cut keys start stop = pure (slice keys start stop) :=
  if_pos ⟨hle, hin⟩

end Operations

/-! ## The window over chosen operations -/

open Operations

/-- The units on a page, each operation made only where its result is asked for. -/
def windowBy {m : Type → Type} [Monad m] (ops : Operations m) (keys : List α)
    (page perPage maxPerPage : UInt64) : m (List α) := do
  let page := pageNumber page
  let size := pageSize perPage maxPerPage
  let total := UInt64.ofNat keys.length
  let full ← ops.div total size
  if page = 1 then ops.cut keys 0 (min size total)
  else
    let last ← ops.add full 1
    if page = last then
      let start ← ops.mul size (← ops.sub page 1)
      ops.cut keys start total
    else if page ≤ full then
      let stop ← ops.mul page size
      if stop ≤ total then
        let start ← ops.mul (← ops.sub page 1) size
        let stop ← ops.mul page size
        ops.cut keys start stop
      else pure []
    else pure []

/-- On words that wrap around, this is how the window is computed. -/
theorem windowBy_wrapping (keys : List α) (page perPage maxPerPage : UInt64) :
    windowBy wrapping keys page perPage maxPerPage = window keys page perPage maxPerPage := by
  unfold windowBy window
  dsimp only [wrapping, bind, pure]
  split
  · rfl
  split
  · rfl
  by_cases hin : pageNumber page ≤ UInt64.ofNat keys.length / pageSize perPage maxPerPage
  · simp only [hin, if_true, true_and]
  · simp only [hin, if_false, false_and]

/-! ## Nothing overflows -/

section Checked

variable {p size total : UInt64}

/-- What is left after the full pages is cut off without a fault. -/
theorem overhang_checked (hone : 1 ≤ p) (hfull : p - 1 ≤ total / size)
    (htotal : total.toNat ≤ keys.length) :
    (do
      let start ← checked.mul size (← checked.sub p 1)
      checked.cut keys start total) = pure (slice keys (size * (p - 1)) total) := by
  have hfits := toNat_mul_lt_of_le_div hfull
  rw [Nat.mul_comm] at hfits
  have hle := mul_le_of_le_div hfull
  rw [UInt64.mul_comm] at hle
  rw [checked_sub hone, pure_bind, checked_mul hfits, pure_bind, checked_cut hle htotal]

/-- A full page is cut out without a fault. -/
theorem fullPage_checked (hone : 1 ≤ p) (hfull : p ≤ total / size)
    (htotal : total.toNat ≤ keys.length) :
    (do
      let stop ← checked.mul p size
      if stop ≤ total then
        let start ← checked.mul (← checked.sub p 1) size
        let stop ← checked.mul p size
        checked.cut keys start stop
      else pure []) = pure (slice keys ((p - 1) * size) (p * size)) := by
  have hbefore := sub_one_le hone
  have hprev := UInt64.le_trans hbefore hfull
  have hle : (p - 1) * size ≤ p * size := by
    rw [UInt64.le_iff_toNat_le, toNat_mul_of_le_div hprev, toNat_mul_of_le_div hfull]
    exact Nat.mul_le_mul_right _ (UInt64.le_iff_toNat_le.mp hbefore)
  have hstop := mul_le_of_le_div hfull
  have hin : (p * size).toNat ≤ keys.length := (UInt64.le_iff_toNat_le.mp hstop).trans htotal
  rw [checked_mul (toNat_mul_lt_of_le_div hfull), pure_bind, if_pos hstop, checked_sub hone,
    pure_bind, checked_mul (toNat_mul_lt_of_le_div hprev), pure_bind, pure_bind,
    checked_cut hle hin]

end Checked

/-- Nothing that is computed for a window overflows, divides by zero, or lies outside the list. -/
theorem windowBy_checked (hlen : keys.length + 1 < 2 ^ 64) (page perPage maxPerPage : UInt64) :
    windowBy checked keys page perPage maxPerPage =
      .ok (window keys page perPage maxPerPage) := by
  have hpos := pageSize_pos perPage maxPerPage
  have hone := one_le_pageNumber page
  have htotal := toNat_ofNat_of_lt (Nat.lt_of_succ_lt hlen)
  unfold windowBy window
  dsimp only
  generalize pageSize perPage maxPerPage = size at *
  generalize pageNumber page = p at *
  generalize UInt64.ofNat keys.length = total at *
  have hfull : (total / size).toNat ≤ total.toNat := by
    rw [UInt64.toNat_div]
    exact Nat.div_le_self _ _
  rw [checked_div (by rintro rfl; exact absurd hpos (by decide)), pure_bind]
  by_cases hfirst : p = 1
  · rw [if_pos hfirst, if_pos hfirst, checked_cut UInt64.zero_le (by rw [toNat_min]; omega)]
    rfl
  rw [if_neg hfirst, if_neg hfirst, checked_add (by rw [UInt64.toNat_one]; omega), pure_bind]
  by_cases hlast : p = total / size + 1
  · have hprev : p - 1 = total / size := by rw [hlast, UInt64.add_sub_cancel]
    rw [if_pos hlast, if_pos hlast]
    exact overhang_checked hone (UInt64.le_of_eq hprev) htotal.le
  rw [if_neg hlast, if_neg hlast]
  by_cases hin : p ≤ total / size
  · rw [if_pos hin, if_pos ⟨hin, mul_le_of_le_div hin⟩]
    exact fullPage_checked hone hin htotal.le
  · rw [if_neg hin, if_neg fun h => hin h.1]
    rfl

/-- The one list that is too long has as many keys as the greatest word: if each is a page of its
own, the number of the page after the last one is no word. -/
theorem windowBy_checked_overflow (hlen : keys.length + 1 = 2 ^ 64)
    (hsize : pageSize perPage maxPerPage = 1) (hpage : pageNumber page ≠ 1) :
    windowBy checked keys page perPage maxPerPage = .error .overflow := by
  have htotal := toNat_ofNat_of_lt (Nat.lt_of_succ_le hlen.le)
  have hadd : checked.add (UInt64.ofNat keys.length / 1) 1 = .error .overflow := by
    refine if_neg ?_
    rw [UInt64.div_one, htotal, UInt64.toNat_one]
    omega
  unfold windowBy
  dsimp only
  rw [hsize, checked_div (by decide), pure_bind, if_neg hpage, hadd]
  rfl

/-! ## The window in unbounded integers -/

/-- The number of units on a page, in unbounded integers. -/
def exactSize (perPage maxPerPage : Nat) : Nat :=
  let most := max maxPerPage 1
  if perPage = 0 ∨ most < perPage then most else perPage

/-- So many units after those on the pages before, in unbounded integers. -/
def exactWindow (keys : List α) (page perPage maxPerPage : Nat) : List α :=
  (keys.drop ((max page 1 - 1) * exactSize perPage maxPerPage)).take (exactSize perPage maxPerPage)

theorem toNat_pageSize (perPage maxPerPage : UInt64) :
    (pageSize perPage maxPerPage).toNat = exactSize perPage.toNat maxPerPage.toNat := by
  have hmost : (max maxPerPage 1).toNat = max maxPerPage.toNat 1 := toNat_max maxPerPage 1
  have hsame : perPage = 0 ∨ max maxPerPage 1 < perPage ↔
      perPage.toNat = 0 ∨ max maxPerPage.toNat 1 < perPage.toNat := by
    rw [UInt64.lt_iff_toNat_lt, hmost, ← UInt64.toNat_inj, UInt64.toNat_zero]
  unfold pageSize exactSize
  dsimp only
  by_cases hmax : perPage = 0 ∨ max maxPerPage 1 < perPage
  · rw [if_pos hmax, if_pos (hsame.mp hmax), hmost]
  · rw [if_neg hmax, if_neg (hsame.not.mp hmax)]

theorem window_eq_exactWindow (hlen : keys.length < 2 ^ 64) (page perPage maxPerPage : UInt64) :
    window keys page perPage maxPerPage =
      exactWindow keys page.toNat perPage.toNat maxPerPage.toNat := by
  have hbefore : (pageNumber page).toNat = max page.toNat 1 - 1 + 1 := by
    rw [toNat_pageNumber]
    omega
  rw [window_of_pageNumber hlen hbefore, toNat_pageSize, exactWindow]

/-- A window is the stretch that unbounded integers give, and nothing overflows, divides by zero or
is cut outside the list on the way. -/
theorem window_exact (keys : List α) (hlen : keys.length ≤ 2 ^ 63 - 1)
    (page perPage maxPerPage : UInt64) :
    windowBy wrapping keys page perPage maxPerPage = window keys page perPage maxPerPage ∧
      windowBy checked keys page perPage maxPerPage =
        .ok (window keys page perPage maxPerPage) ∧
      window keys page perPage maxPerPage =
        exactWindow keys page.toNat perPage.toNat maxPerPage.toNat :=
  ⟨windowBy_wrapping keys page perPage maxPerPage,
    windowBy_checked (by omega) page perPage maxPerPage,
    window_eq_exactWindow (by omega) page perPage maxPerPage⟩

/-- A short last page, and a page so far past it that its end would be no word. -/
theorem window_exact_overhang :
    (List.range 11).length ≤ 2 ^ 63 - 1 ∧
      windowBy checked (List.range 11) 3 500 5 = .ok [10] ∧
      windowBy checked (List.range 11) 18446744073709551615 4 100 = .ok [] := by
  have hlen : (List.range 11).length ≤ 2 ^ 63 - 1 := by decide
  obtain ⟨-, hlast, hshown⟩ := window_exact (List.range 11) hlen 3 500 5
  obtain ⟨-, hpast, hnone⟩ := window_exact (List.range 11) hlen 18446744073709551615 4 100
  refine ⟨hlen, ?_, ?_⟩
  · rw [hlast, hshown]
    decide
  · rw [hpast, hnone]
    decide

end EdgeCatalog.Paging
