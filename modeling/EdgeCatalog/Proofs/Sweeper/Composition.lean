import Mathlib
import EdgeCatalog.Proofs.Commutation
import EdgeCatalog.Proofs.Instant.Arithmetic

/-! Sweeps compose. What has expired at one instant has expired at any later one, so a record
survives two sweeps if it survives the later of them, and a sweep that is not later than one before
it finds nothing to remove. -/
namespace EdgeCatalog

theorem survives_max {ε : Type} [Perishable ε] (a b : Instant) (r : ε) :
    survives [max a b] r = (survives [a] r && survives [b] r) := by
  rw [survives_singleton, survives_singleton, survives_singleton, ← Bool.not_or]
  congr 1
  cases Perishable.expires r with
  | none => rfl
  | some due =>
    have hdue : decide (due ≤ max a b) = (decide (due ≤ a) || decide (due ≤ b)) := by
      rw [← Bool.decide_or]
      exact decide_eq_decide.mpr le_max_iff
    rw [Expiry.isExpired, Expiry.isExpired, Expiry.isExpired, hdue, Bool.and_or_distrib_left]

section

open RecordStore (cleanExpired metrics)

variable {σ ε : Type} [RecordStore σ ε]

/-- A sweep at `a` and then one at `b`, beside a single one at the later of the two instants. -/
structure SweepsCompose (s : σ) (a b : Instant) : Prop where
  store : (cleanExpired (cleanExpired s a).store b).store = (cleanExpired s (max a b)).store
  removed : (cleanExpired s a).removed + (cleanExpired (cleanExpired s a).store b).removed =
    (cleanExpired s (max a b)).removed
  /-- What the two remove is counted, and nothing else is. -/
  counted : metrics (cleanExpired (cleanExpired s a).store b).store =
    metrics s + { expired := UInt64.ofNat ((cleanExpired s a).removed +
      (cleanExpired (cleanExpired s a).store b).removed) }
  /-- A sweep that is not later than the one before it does nothing. -/
  idle : b ≤ a → cleanExpired (cleanExpired s a).store b = ⟨0, (cleanExpired s a).store, []⟩

variable [Perishable ε]

/-- A sweep of a store leaves its configuration alone, and does nothing if it removes nothing. -/
structure Sweepable (config : σ → UInt64) (valid : σ → Prop) (records : σ → Table ε) : Prop extends
    Settled config valid records where
  config_sweep : ∀ (s : σ) (now : Instant), config (cleanExpired s now).store = config s
  idle : ∀ {s : σ} {now : Instant}, (cleanExpired s now).removed = 0 →
    cleanExpired s now = ⟨0, s, []⟩

/-! ## One sweep -/

namespace Bookkeeping

variable {valid : σ → Prop} {records : σ → Table ε} {s : σ}

theorem valid_sweep (h : Bookkeeping valid records) (hs : valid s) (now : Instant) :
    valid (cleanExpired s now).store :=
  h.valid_apply hs (.cleanExpired now)

theorem records_sweep (h : Bookkeeping valid records) (hs : valid s) (now : Instant) :
    records (cleanExpired s now).store = (records s).filter (survives [now]) :=
  h.records_apply hs (.cleanExpired now)

theorem metrics_sweep (h : Bookkeeping valid records) (hs : valid s) (now : Instant) :
    metrics (cleanExpired s now).store =
      metrics s + { expired := UInt64.ofNat (cleanExpired s now).removed } :=
  h.metrics_apply hs (.cleanExpired now)

theorem removed_add_size (h : Bookkeeping valid records) (hs : valid s) (now : Instant) :
    (cleanExpired s now).removed + (records (cleanExpired s now).store).size =
      (records s).size := by
  rw [h.removed_eq hs, h.records_sweep hs, Nat.add_comm, Table.size_filter_add_size_filter_not]

/-! ## Two sweeps -/

theorem records_sweeps (h : Bookkeeping valid records) (hs : valid s) (a b : Instant) :
    records (cleanExpired (cleanExpired s a).store b).store =
      records (cleanExpired s (max a b)).store := by
  rw [h.records_sweep (h.valid_sweep hs a), h.records_sweep hs, h.records_sweep hs,
    Table.filter_filter]
  congr 1
  funext r
  exact (survives_max a b r).symm

theorem removed_sweeps (h : Bookkeeping valid records) (hs : valid s) (a b : Instant) :
    (cleanExpired s a).removed + (cleanExpired (cleanExpired s a).store b).removed =
      (cleanExpired s (max a b)).removed := by
  have hfirst := h.removed_add_size hs a
  have hsecond := h.removed_add_size (h.valid_sweep hs a) b
  have honce := h.removed_add_size hs (max a b)
  rw [h.records_sweeps hs] at hsecond
  omega

theorem metrics_sweeps (h : Bookkeeping valid records) (hs : valid s) (a b : Instant) :
    metrics (cleanExpired (cleanExpired s a).store b).store =
      metrics s + { expired := UInt64.ofNat ((cleanExpired s a).removed +
        (cleanExpired (cleanExpired s a).store b).removed) } := by
  rw [h.metrics_sweep (h.valid_sweep hs a), h.metrics_sweep hs, add_assoc, UInt64.ofNat_add]
  rfl

end Bookkeeping

theorem Sweepable.compose {config : σ → UInt64} {valid : σ → Prop} {records : σ → Table ε} {s : σ}
    (h : Sweepable config valid records) (hs : valid s) (a b : Instant) : SweepsCompose s a b where
  store := by
    have hremoved := h.removed_sweeps hs a b
    refine h.eq_of_parts (h.valid_sweep (h.valid_sweep hs a) b) (h.valid_sweep hs (max a b))
      (h.records_sweeps hs a b) ?_ ?_
    · rw [h.config_sweep, h.config_sweep, h.config_sweep]
    · rw [h.metrics_sweeps hs, h.metrics_sweep hs, hremoved]
  removed := h.removed_sweeps hs a b
  counted := h.metrics_sweeps hs a b
  idle hle := by
    have hremoved := h.removed_sweeps hs a b
    rw [max_eq_left hle] at hremoved
    exact h.idle (by omega)

/-- Of many sweeps, one after the other, only the latest matters. -/
theorem Sweepable.foldl_sweep {config : σ → UInt64} {valid : σ → Prop} {records : σ → Table ε}
    {s : σ} (h : Sweepable config valid records) (hs : valid s) (first : Instant)
    (later : List Instant) :
    later.foldl (fun s now => (cleanExpired s now).store) (cleanExpired s first).store =
      (cleanExpired s (later.foldl max first)).store := by
  induction later generalizing first with
  | nil => rfl
  | cons now rest ih =>
    rw [List.foldl_cons, List.foldl_cons, (h.compose hs first now).store, ih]

end

/-! ## The stores -/

namespace DeviceStore

theorem maxPerPage_cleanExpired (s : DeviceStore) (now : Instant) :
    (s.cleanExpired now).store.maxPerPage = s.maxPerPage := by
  rw [cleanExpired]
  split <;> rfl

theorem cleanExpired_of_removed {s : DeviceStore} {now : Instant}
    (h : (s.cleanExpired now).removed = 0) : s.cleanExpired now = ⟨0, s, []⟩ := by
  rw [cleanExpired] at h ⊢
  by_cases hempty : (s.expiredIds now).isEmpty = true
  · rw [if_pos hempty]
  · rw [if_neg hempty] at h
    exact absurd (List.isEmpty_iff.mpr (List.length_eq_zero_iff.mp h)) hempty

theorem sweepable : Sweepable maxPerPage Reachable contents where
  toSettled := settled
  config_sweep := maxPerPage_cleanExpired
  idle := cleanExpired_of_removed

end DeviceStore

namespace ServiceStore

theorem maxPerPage_cleanExpired (s : ServiceStore) (now : Instant) :
    (s.cleanExpired now).store.maxPerPage = s.maxPerPage := by
  rw [cleanExpired]
  split <;> rfl

theorem cleanExpired_of_removed {s : ServiceStore} {now : Instant}
    (h : (s.cleanExpired now).removed = 0) : s.cleanExpired now = ⟨0, s, []⟩ := by
  rw [cleanExpired] at h ⊢
  by_cases hempty : (s.expiredIds now).isEmpty = true
  · rw [if_pos hempty]
  · rw [if_neg hempty] at h
    exact absurd (List.isEmpty_iff.mpr (List.length_eq_zero_iff.mp h)) hempty

theorem sweepable : Sweepable maxPerPage Reachable fun s => s.tables.data where
  toSettled := settled
  config_sweep := maxPerPage_cleanExpired
  idle := cleanExpired_of_removed

end ServiceStore

/-- Two sweeps, whichever of them is the later, leave the store that one sweep at the later instant
leaves: the same rows, the same indexes and the same counters. Their removals add up to its own, and
sweeping again at the same or an earlier instant does nothing. -/
theorem sweeps_compose (a b : Instant) :
    (∀ s : DeviceStore, s.Reachable → SweepsCompose s a b) ∧
    (∀ s : ServiceStore, s.Reachable → SweepsCompose s a b) :=
  ⟨fun _ hs => DeviceStore.sweepable.compose hs a b,
    fun _ hs => ServiceStore.sweepable.compose hs a b⟩

/-- One of three devices is due when it is stored and another, with a resource, five seconds later.
A sweep in between leaves the second to a later sweep, and has nothing to do after one. -/
theorem sweeps_compose_either_order :
    let s := DeviceStore.run {} [
      .record (.add .epoch { id := "abc/dev1", ttl := 5, resources := [{ id := "abc/dev1/0" }] }),
      .record (.add .epoch { id := "abc/dev2", ttl := 0 }),
      .record (.add .epoch { id := "abc/dev3", ttl := -1 })]
    let t := ServiceStore.run {} [.add .epoch { id := "a/b", ttl := 5 }]
    ((s.cleanExpired .epoch).removed = 1 ∧ (s.cleanExpired (.of 5 0)).removed = 2 ∧
      (t.cleanExpired (.of 5 0)).removed = 1) ∧
    (SweepsCompose s .epoch (.of 5 0) ∧ SweepsCompose s (.of 5 0) .epoch) ∧
    SweepsCompose t (.of 5 0) (.of 5 0) :=
  ⟨⟨by rfl, by rfl, by rfl⟩,
    ⟨(sweeps_compose _ _).1 _ ⟨100, _, rfl⟩, (sweeps_compose _ _).1 _ ⟨100, _, rfl⟩⟩,
    (sweeps_compose _ _).2 _ ⟨100, _, rfl⟩⟩

end EdgeCatalog
