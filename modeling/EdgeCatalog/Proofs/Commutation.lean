import Mathlib
import EdgeCatalog.Proofs.Device.Counting
import EdgeCatalog.Proofs.Device.Determined
import EdgeCatalog.Proofs.Service.Counting
import EdgeCatalog.Proofs.Service.Determined

/-! Writes to different ids commute. What a write answers depends on the record under its id, and
what it does is confined to that id, so of two writes to different ids either one answers as if the
other had not been made, and the store that both leave does not tell which came first. -/
namespace EdgeCatalog

section

variable {σ ε : Type} [RecordStore σ ε]

/-- Two calls do not meet in a store: each answers as it does without the other, and made in either
order they leave the same store. -/
structure Operation.Commute (s : σ) (c c' : Operation ε) : Prop where
  first : c.answer (c'.apply s) = c.answer s
  second : c'.answer (c.apply s) = c'.answer s
  store : c'.apply (c.apply s) = c.apply (c'.apply s)

variable [Perishable ε]

/-- A store that keeps book, as long as it is one that calls leave, is made up of its records, its
configuration and its counters. A write leaves the configuration alone, and what it answers is
settled by the record under its id. -/
structure Settled (config : σ → UInt64) (valid : σ → Prop) (records : σ → Table ε) : Prop extends
    Bookkeeping valid records where
  answer_congr : ∀ {s s' : σ}, valid s → valid s' → ∀ {c : Operation ε} {id : String}, c.Writes id →
    (records s).get? id = (records s').get? id → c.answer s = c.answer s'
  config_apply : ∀ (s : σ) {c : Operation ε} {id : String}, c.Writes id →
    config (c.apply s) = config s
  eq_of_parts : ∀ {s s' : σ}, valid s → valid s' → records s = records s' → config s = config s' →
    RecordStore.metrics s = RecordStore.metrics s' → s = s'

namespace Settled

variable {config : σ → UInt64} {valid : σ → Prop} {records : σ → Table ε} {s : σ}
  {c c' : Operation ε} {a b : String}

/-- A write to another id makes no difference to what a write answers. -/
theorem answer_apply (h : Settled config valid records) (hs : valid s) (hc : c.Writes a)
    (hc' : c'.Writes b) (hne : a ≠ b) : c.answer (c'.apply s) = c.answer s := by
  refine h.answer_congr (h.valid_apply hs c') hs hc ?_
  rw [h.records_apply hs]
  exact hc'.confined s (records s) a hne

theorem records_comm (h : Settled config valid records) (hs : valid s) (hc : c.Writes a)
    (hc' : c'.Writes b) (hne : a ≠ b) :
    records (c'.apply (c.apply s)) = records (c.apply (c'.apply s)) := by
  -- the second call has the effect that it has on its own, in either order
  have hsecond := hc'.effect_congr (h.answer_apply hs hc' hc hne.symm)
  have hfirst := hc.effect_congr (h.answer_apply hs hc hc' hne)
  rw [h.records_apply (h.valid_apply hs c), h.records_apply hs, hsecond,
    h.records_apply (h.valid_apply hs c'), h.records_apply hs, hfirst]
  exact Effect.apply_comm (hc.confined s) (hc'.confined s) hne (records s)

theorem metrics_comm (h : Settled config valid records) (hs : valid s) (hc : c.Writes a)
    (hc' : c'.Writes b) (hne : a ≠ b) :
    RecordStore.metrics (c'.apply (c.apply s)) = RecordStore.metrics (c.apply (c'.apply s)) := by
  -- and it costs what it costs on its own
  rw [h.metrics_apply (h.valid_apply hs c), h.metrics_apply hs, h.answer_apply hs hc' hc hne.symm,
    h.metrics_apply (h.valid_apply hs c'), h.metrics_apply hs, h.answer_apply hs hc hc' hne]
  exact add_right_comm _ _ _

theorem commute (h : Settled config valid records) (hs : valid s) (hc : c.Writes a)
    (hc' : c'.Writes b) (hne : a ≠ b) : Operation.Commute s c c' where
  first := h.answer_apply hs hc hc' hne
  second := h.answer_apply hs hc' hc hne.symm
  store := by
    refine h.eq_of_parts (h.valid_apply (h.valid_apply hs c) c')
      (h.valid_apply (h.valid_apply hs c') c) (h.records_comm hs hc hc' hne) ?_
      (h.metrics_comm hs hc hc' hne)
    rw [h.config_apply _ hc', h.config_apply _ hc, h.config_apply _ hc, h.config_apply _ hc']

end Settled

end

theorem DeviceStore.settled : Settled maxPerPage Reachable contents where
  toBookkeeping := bookkeeping
  answer_congr hs hs' _ _ hc hsame := answer_congr hs.stands hs'.stands hc hsame
  config_apply s _ _ hc := maxPerPage_apply s hc
  eq_of_parts hs hs' hcontents hconfig hmetrics :=
    eq_of_stands (hcontents ▸ hs.stands) hs'.stands hconfig hmetrics

theorem ServiceStore.settled : Settled maxPerPage Reachable fun s => s.tables.data where
  toBookkeeping := bookkeeping
  answer_congr hs hs' _ _ hc hsame := answer_congr hs.stands hs'.stands hc hsame
  config_apply s _ _ hc := maxPerPage_apply s hc
  eq_of_parts hs hs' hdata hconfig hmetrics :=
    eq_of_stands (hdata ▸ hs.stands) hs'.stands hconfig hmetrics

/-- Two writes to different ids, whether they succeed or fail and whatever the clock reads, answer
alike in either order and leave the same store: the same rows, the same indexes and the same
counters. -/
theorem writes_commute :
    (∀ (s : DeviceStore) (c c' : Operation Device) (a b : String),
      s.Reachable → c.Writes a → c'.Writes b → a ≠ b → Operation.Commute s c c') ∧
    (∀ (s : ServiceStore) (c c' : Operation Service) (a b : String),
      s.Reachable → c.Writes a → c'.Writes b → a ≠ b → Operation.Commute s c c') :=
  ⟨fun _ _ _ _ _ hs hc hc' hne => DeviceStore.settled.commute hs hc hc' hne,
    fun _ _ _ _ _ hs hc hc' hne => ServiceStore.settled.commute hs hc hc' hne⟩

/-- A device gets another resource while one whose id goes on with its own is added: the resources
do not meet. The registration that is deleted and the one that is missing do not meet either. -/
theorem writes_commute_prefix :
    let s := DeviceStore.run {} [
      .record (.add .epoch { id := "abc/dev1", resources := [{ id := "abc/dev1/0" }] })]
    let t := ServiceStore.run {} [.add .epoch { id := "a/b" }]
    let update := .update .epoch "abc/dev1" { resources := [{ id := "abc/dev1/1" }] }
    let add := .add .epoch { id := "abc/dev10", resources := [{ id := "abc/dev10/1" }] }
    ((update.answer s).isOk ∧ (add.answer s).isOk ∧ Operation.Commute s update add) ∧
    Operation.Commute t (.delete "a/b") (.update .epoch "a/c" {}) :=
  ⟨⟨by rfl, by rfl, writes_commute.1 _ _ _ "abc/dev1" "abc/dev10" ⟨100, _, rfl⟩ (.update _ _ _)
      (.add _ _) (by decide)⟩,
    writes_commute.2 _ _ _ "a/b" "a/c" ⟨100, _, rfl⟩ (.delete _) (.update _ _ _) (by decide)⟩

end EdgeCatalog
