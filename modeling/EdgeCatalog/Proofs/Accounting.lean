import Mathlib
import EdgeCatalog.Proofs.Device.Counting
import EdgeCatalog.Proofs.Service.Counting
import EdgeCatalog.Proofs.Store.Receipt

/-! Every call is counted once. Both stores give receipts: what a call adds to the counters is
settled by what it comes to, whichever way it takes to its end. Asking for the number of devices, of
resources or of registrations is not a call; it leaves the store as it is. -/
namespace EdgeCatalog

/-! ## Devices -/

/-- Is the call one that is counted, whatever it comes to? -/
def DeviceCall.isCounted : DeviceCall → Bool
  | .record operation => operation.isCounted
  | .resource (.get _) => true
  | .resource (.filterOne _ relation _) => relation ∈ Relation.names
  | .resource (.filterMany _ relation _ _ _) => relation ∈ Relation.names
  | .resource (.devices _) => false

namespace DeviceStore

/-- What a call comes to. -/
def receipt (s : DeviceStore) : DeviceCall → Receipt
  | .record operation => operation.receipt (operation.answer s)
  | .resource (.get id) => .ofResult .found .missed (s.getResource id).result
  | .resource (.filterOne _ relation _) => .ofQuery relation
  | .resource (.filterMany _ relation _ _ _) => .ofQuery relation
  | .resource (.devices _) => .unrecorded

theorem add_error {s : DeviceStore} {now : Instant} {d : Device} {e : Error}
    (h : (s.add now d).result = .error e) : ∃ cause, e = .invalid cause := by
  rw [add_eq] at h
  cases hadmitted : s.tables.admitted now d with
  | error fault =>
    rw [hadmitted] at h
    obtain rfl := Except.error.inj h
    exact DeviceTables.admitted_error hadmitted
  | ok stored =>
    rw [hadmitted] at h
    cases h

theorem delete_error {s : DeviceStore} {id : String} {e : Error}
    (h : (s.delete id).result = .error e) : e = .missing (.entry id) := by
  rw [delete] at h
  split at h
  · exact (Except.error.inj h).symm
  · cases h

theorem accounting : Accounting Reachable contents where
  toBookkeeping := bookkeeping
  add_error _ _ _ _ h := add_error h
  delete_error _ _ _ h := ⟨_, delete_error h⟩

theorem cost_resource (s : DeviceStore) (command : ResourceCommand) :
    s.resourceCost command = (s.receipt (.resource command)).cost := by
  cases command with
  | get id => exact (Receipt.cost_lookup _).symm
  | filterOne path relation value => exact (Receipt.cost_ofQuery path relation value).symm
  | filterMany path relation value page perPage =>
    exact (Receipt.cost_ofQuery path relation value).symm
  | devices resources => rfl

theorem givesReceipts : CallStore.GivesReceipts Reachable receipt DeviceCall.isCounted where
  valid_call hs c := hs.call c
  metrics_call {s} hs c := by
    cases c with
    | record operation =>
      refine (accounting.metrics_apply hs operation).trans ?_
      rw [accounting.cost_eq hs]
      rfl
    | resource command =>
      rw [← cost_resource]
      exact metrics_resource hs.stands command
  counted_eq s c := by
    cases c with
    | record operation => exact operation.isCounted_receipt _
    | resource command =>
      cases command with
      | get id =>
        rw [receipt]
        cases (s.getResource id).result <;> rfl
      | filterOne path relation value => exact Receipt.isCounted_ofQuery relation
      | filterMany path relation value page perPage => exact Receipt.isCounted_ofQuery relation
      | devices resources => rfl

end DeviceStore

/-! ## Registrations -/

namespace ServiceStore

/-- What a call comes to. -/
def receipt (s : ServiceStore) (c : Operation Service) : Receipt :=
  c.receipt (c.answer s)

theorem add_error {s : ServiceStore} {now : Instant} {service : Service} {e : Error}
    (h : (s.add now service).result = .error e) : ∃ cause, e = .invalid cause := by
  rw [add_eq] at h
  cases hadmitted : s.tables.admitted now service with
  | error fault =>
    rw [hadmitted] at h
    obtain rfl := Except.error.inj h
    exact ServiceTables.admitted_error hadmitted
  | ok stored =>
    rw [hadmitted] at h
    cases h

theorem delete_error {s : ServiceStore} {id : String} {e : Error}
    (h : (s.delete id).result = .error e) : e = .missing (.entry id) := by
  rw [delete] at h
  split at h
  · exact (Except.error.inj h).symm
  · cases h

theorem accounting : Accounting Reachable fun s => s.tables.data where
  toBookkeeping := bookkeeping
  add_error _ _ _ _ h := add_error h
  delete_error _ _ _ h := ⟨_, delete_error h⟩

theorem givesReceipts : CallStore.GivesReceipts Reachable receipt Operation.isCounted where
  valid_call hs c := hs.call c
  metrics_call {s} hs c := by
    refine (accounting.metrics_apply hs c).trans ?_
    rw [accounting.cost_eq hs]
    rfl
  counted_eq s c := c.isCounted_receipt _

end ServiceStore

/-! ## Both stores -/

/-- In any run of calls on a new store, each call is counted as its receipt says, so the counters
show how often they were incremented. While none of them has wrapped, the lookups that are no misses
are those that found a device, a registration or a resource, and all calls add up. -/
theorem calls_counted_once (maxPerPage : UInt64) :
    (∀ calls : List DeviceCall, CallStore.Accounted DeviceStore.receipt DeviceCall.isCounted
      { maxPerPage } calls) ∧
    (∀ calls : List (Operation Service),
      CallStore.Accounted ServiceStore.receipt Operation.isCounted { maxPerPage } calls) :=
  ⟨DeviceStore.givesReceipts.accounted ⟨maxPerPage, [], rfl⟩ rfl,
    ServiceStore.givesReceipts.accounted ⟨maxPerPage, [], rfl⟩ rfl⟩

/-- One device is found and one is not, one addition is refused, one deletion is in vain, and neither
a query of an unknown relation nor a sweep is among the calls that are counted. -/
theorem calls_counted_once_each :
    let calls : List DeviceCall := [
      .record (.add .epoch { id := "a/b", ttl := -1 }), .record (.add .epoch { id := "a/b" }),
      .record (.delete "a/c"), .record (.get "a/b"), .record (.get "a/c"),
      .record (.filterOne "id" "equals" "a/c"), .record (.filterOne "id" "unknown" "a/c"),
      .record (.cleanExpired .epoch)]
    (DeviceStore.run {} calls).metrics.AddUp 1 6 :=
  ((calls_counted_once 100).1 _).addUp fun counter => by cases counter <;> decide

end EdgeCatalog
