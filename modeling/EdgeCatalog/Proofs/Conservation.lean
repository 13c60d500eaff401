import Mathlib
import EdgeCatalog.Proofs.Device.Counting
import EdgeCatalog.Proofs.Service.Counting

/-! Records are conserved. Whatever is called on a store that was empty, as many records were added
as were deleted, as have expired and as are stored; what counts as expired are devices and
registrations, not the resources that go with a device. The counters are words, so all of this is
modulo 2^64. -/
namespace EdgeCatalog

section

variable {σ ε : Type} [RecordStore σ ε]

/-- As many records were added as were deleted, as have expired and as are stored. -/
def Conserved (s : σ) : Prop :=
  let counters := RecordStore.metrics s
  counters.adds = counters.deletes + counters.expired + UInt64.ofNat (RecordStore.size s)

theorem conserved_iff {s : σ} :
    Conserved s ↔ (RecordStore.metrics s).Balances 0 (RecordStore.size s) := by
  simp only [Conserved, Metrics.Balances]
  grind

/-- A call whose cost balances the records conserves them. -/
theorem Conserved.step {s s' : σ} {cost : Metrics} (h : Conserved s)
    (hmetrics : RecordStore.metrics s' = RecordStore.metrics s + cost)
    (hcost : cost.Balances (RecordStore.size s) (RecordStore.size s')) : Conserved s' := by
  rw [conserved_iff] at h ⊢
  rw [hmetrics]
  exact h.trans hcost

variable [Perishable ε] {valid : σ → Prop} {records : σ → Table ε} {s : σ}

theorem Bookkeeping.conserved_apply (h : Bookkeeping valid records) (hs : valid s)
    (hconserved : Conserved s) (c : Operation ε) : Conserved (c.apply s) := by
  refine hconserved.step (h.metrics_apply hs c) ?_
  rw [h.size_eq hs, h.size_eq (h.valid_apply hs c)]
  exact h.balances hs c

end

/-! ## Devices -/

namespace DeviceStore

variable {s : DeviceStore}

theorem conserved_call (hs : s.Reachable) (hconserved : Conserved s) (c : DeviceCall) :
    Conserved (s.call c) := by
  cases c with
  | record operation => exact bookkeeping.conserved_apply hs hconserved operation
  | resource command =>
    refine hconserved.step (metrics_resource hs.stands command) ?_
    have hsize : RecordStore.size (s.call (.resource command)) = RecordStore.size s :=
      congrArg (·.devices.size) (tables_resource s command)
    rw [hsize]
    exact balances_resourceCost s command _

theorem conserved_run (hs : s.Reachable) (hconserved : Conserved s) (calls : List DeviceCall) :
    Conserved (s.run calls) := by
  induction calls generalizing s with
  | nil => exact hconserved
  | cons c rest ih => exact ih (hs.call c) (conserved_call hs hconserved c)

/-- The devices that a call removes because they have expired. -/
def expiring (s : DeviceStore) : DeviceCall → List Device
  | .record (.cleanExpired now) => s.contents.values.filter (·.isExpired now)
  | _ => []

theorem expired_call (hs : s.Reachable) (c : DeviceCall) :
    (s.call c).metrics.expired = s.metrics.expired + UInt64.ofNat (s.expiring c).length := by
  cases c with
  | record operation =>
    have hcost : (operation.apply s).metrics = _ := metrics_apply hs.stands operation
    show (operation.apply s).metrics.expired = _
    rw [hcost]
    cases operation with
    | cleanExpired now =>
      have hremoved := (cleanExpired_simulates hs.stands now).1.trans (Table.size_filter _ _)
      rw [expiring, ← hremoved]
      rfl
    | _ =>
      exact congrArg (s.metrics.expired + ·) (Operation.expired_cost (fun _ h => by cases h) _)
  | resource command =>
    rw [metrics_resource hs.stands]
    refine congrArg (s.metrics.expired + ·) ?_
    cases command with
    | get id => rfl
    | filterOne path relation value => exact Cost.expired_query path relation value
    | filterMany path relation value page perPage => exact Cost.expired_query path relation value
    | devices resources => rfl

end DeviceStore

/-! ## Registrations -/

theorem ServiceStore.conserved_run {s : ServiceStore} (hs : s.Reachable) (hconserved : Conserved s)
    (calls : List (Operation Service)) : Conserved (s.run calls) := by
  induction calls generalizing s with
  | nil => exact hconserved
  | cons c rest ih => exact ih (hs.call c) (bookkeeping.conserved_apply hs hconserved c)

/-- After any calls on an empty store, records have been added as often as they were deleted, have
expired or are stored, and a sweep counts every device that it removes once, however many resources
the device owns. -/
theorem records_conserved (maxPerPage : UInt64) :
    (∀ calls : List DeviceCall, let s := DeviceStore.run { maxPerPage } calls
      Conserved s ∧ ∀ c, (s.call c).metrics.expired =
        s.metrics.expired + UInt64.ofNat (s.expiring c).length) ∧
    (∀ calls : List (Operation Service), Conserved (ServiceStore.run { maxPerPage } calls)) := by
  constructor
  · intro calls
    have hempty : Conserved ({ maxPerPage } : DeviceStore) := rfl
    exact ⟨DeviceStore.conserved_run ⟨maxPerPage, [], rfl⟩ hempty calls,
      DeviceStore.expired_call ⟨maxPerPage, calls, rfl⟩⟩
  · intro calls
    have hempty : Conserved ({ maxPerPage } : ServiceStore) := rfl
    exact ServiceStore.conserved_run ⟨maxPerPage, [], rfl⟩ hempty calls

end EdgeCatalog
