import Mathlib
import EdgeCatalog.Proofs.Device.Charging
import EdgeCatalog.Proofs.Service.Charging

/-! Writes that are refused. A write that fails leaves the store as it was but for the counters, and
since nothing depends on the counters, whatever is called later goes as if the write had not been
tried. -/
namespace EdgeCatalog

/-- What a refusal costs: a rejection if the input is at fault, a lookup in vain if there is nothing
to write to. A write is refused for no other reason. -/
inductive RefusalCost : Error → Metrics → Prop
  | invalid (cause : Invalid) : RefusalCost (.invalid cause) { rejected := 1 }
  | missing (cause : Missing) : RefusalCost (.missing cause) { lookups := 1, misses := 1 }

section

variable {σ ε α : Type} {charged : Metrics → σ}

/-- If a step fails, the store it leaves is charged with the cost of the refusal. -/
def Step.OnlyCharges (charged : Metrics → σ) (step : Step σ α) : Prop :=
  ∀ e, step.result = .error e → ∃ cost, RefusalCost e cost ∧ step.store = charged cost

theorem Operation.refused [RecordStore σ ε] {s : σ}
    (hadd : ∀ now entry, (RecordStore.add s now entry).OnlyCharges charged)
    (hupdate : ∀ now id entry, (RecordStore.update s now id entry).OnlyCharges charged)
    (hdelete : ∀ id, (RecordStore.delete s id).OnlyCharges charged) {c : Operation ε} {e : Error}
    (hwrite : c.IsWrite) (h : c.answer s = .error e) :
    ∃ cost, RefusalCost e cost ∧ c.apply s = charged cost := by
  cases c with
  | add now entry => exact hadd now entry e (error_of_map h)
  | update now id entry => exact hupdate now id entry e (error_of_map h)
  | delete id => exact hdelete id e (error_of_map h)
  | cleanExpired now => exact hwrite.elim
  | get id => exact hwrite.elim
  | getMany page perPage => exact hwrite.elim
  | filterOne path relation value => exact hwrite.elim
  | filterMany path relation value page perPage => exact hwrite.elim

end

namespace DeviceStore

theorem store_reject {α : Type} (s : DeviceStore) (e : Error) :
    (s.reject e : Step DeviceStore α).store = s.charge { rejected := 1 } := by
  rw [reject, Metrics.recordRejected_eq]
  rfl

theorem store_miss {α : Type} (s : DeviceStore) (id : String) :
    (s.miss id : Step DeviceStore α).store = s.charge { lookups := 1, misses := 1 } := by
  rw [miss, Metrics.recordLookup_eq]
  rfl

theorem add_onlyCharges (s : DeviceStore) (now : Instant) (d : Device) :
    (s.add now d).OnlyCharges (charge · s) := by
  intro e h
  rw [add_eq] at h ⊢
  cases hadmitted : s.tables.admitted now d with
  | error fault =>
    rw [hadmitted] at h
    obtain rfl := Except.error.inj h
    obtain ⟨cause, rfl⟩ := DeviceTables.admitted_error hadmitted
    exact ⟨_, .invalid cause, store_reject s _⟩
  | ok stored =>
    rw [hadmitted] at h
    cases h

theorem update_onlyCharges (s : DeviceStore) (now : Instant) (id : String) (d : Device) :
    (s.update now id d).OnlyCharges (charge · s) := by
  intro e h
  rw [update_eq] at h ⊢
  cases hamend : s.tables.amended now id d with
  | error fault =>
    rw [hamend] at h
    rcases DeviceTables.amended_error hamend with ⟨cause, rfl⟩ | rfl
    · obtain rfl := Except.error.inj h
      exact ⟨_, .invalid cause, store_reject s _⟩
    · obtain rfl := Except.error.inj h
      exact ⟨_, .missing (.entry id), store_miss s id⟩
  | ok stored =>
    rw [hamend] at h
    cases h

theorem delete_onlyCharges (s : DeviceStore) (id : String) :
    (s.delete id).OnlyCharges (charge · s) := by
  intro e h
  rw [delete] at h ⊢
  cases hfound : s.tables.remove id with
  | none =>
    rw [hfound] at h
    obtain rfl := Except.error.inj h
    exact ⟨_, .missing (.entry id), store_miss s id⟩
  | some removed =>
    rw [hfound] at h
    cases h

theorem write_refused {s : DeviceStore} {c : Operation Device} {e : Error} (hwrite : c.IsWrite)
    (h : c.answer s = .error e) : ∃ cost, RefusalCost e cost ∧ c.apply s = s.charge cost :=
  Operation.refused (add_onlyCharges s) (update_onlyCharges s) (delete_onlyCharges s) hwrite h

end DeviceStore

namespace ServiceStore

theorem store_reject {α : Type} (s : ServiceStore) (e : Error) :
    (s.reject e : Step ServiceStore α).store = s.charge { rejected := 1 } := by
  rw [reject, Metrics.recordRejected_eq]
  rfl

theorem store_miss {α : Type} (s : ServiceStore) (id : String) :
    (s.miss id : Step ServiceStore α).store = s.charge { lookups := 1, misses := 1 } := by
  rw [miss, Metrics.recordLookup_eq]
  rfl

theorem add_onlyCharges (s : ServiceStore) (now : Instant) (service : Service) :
    (s.add now service).OnlyCharges (charge · s) := by
  intro e h
  rw [add_eq] at h ⊢
  cases hadmitted : s.tables.admitted now service with
  | error fault =>
    rw [hadmitted] at h
    obtain rfl := Except.error.inj h
    obtain ⟨cause, rfl⟩ := ServiceTables.admitted_error hadmitted
    exact ⟨_, .invalid cause, store_reject s _⟩
  | ok stored =>
    rw [hadmitted] at h
    cases h

theorem update_onlyCharges (s : ServiceStore) (now : Instant) (id : String) (service : Service) :
    (s.update now id service).OnlyCharges (charge · s) := by
  intro e h
  rw [update_eq] at h ⊢
  cases hamend : s.tables.amended now id service with
  | error fault =>
    rw [hamend] at h
    rcases ServiceTables.amended_error hamend with ⟨cause, rfl⟩ | rfl
    · obtain rfl := Except.error.inj h
      exact ⟨_, .invalid cause, store_reject s _⟩
    · obtain rfl := Except.error.inj h
      exact ⟨_, .missing (.entry id), store_miss s id⟩
  | ok stored =>
    rw [hamend] at h
    cases h

theorem delete_onlyCharges (s : ServiceStore) (id : String) :
    (s.delete id).OnlyCharges (charge · s) := by
  intro e h
  rw [delete] at h ⊢
  cases hfound : s.tables.data.get? id with
  | none =>
    rw [hfound] at h
    obtain rfl := Except.error.inj h
    exact ⟨_, .missing (.entry id), store_miss s id⟩
  | some removed =>
    rw [hfound] at h
    cases h

theorem write_refused {s : ServiceStore} {c : Operation Service} {e : Error} (hwrite : c.IsWrite)
    (h : c.answer s = .error e) : ∃ cost, RefusalCost e cost ∧ c.apply s = s.charge cost :=
  Operation.refused (add_onlyCharges s) (update_onlyCharges s) (delete_onlyCharges s) hwrite h

end ServiceStore

/-- A write that fails, to whatever store, changes nothing but the counters, and these by the cost of
the refusal. Whatever is called afterwards answers as if the write had not been tried, and in the end
only the counters tell. -/
theorem refused_writes :
    (∀ (s : DeviceStore) (c : Operation Device) (e : Error), c.IsWrite → c.answer s = .error e →
      ∃ cost, RefusalCost e cost ∧ c.apply s = s.charge cost ∧
        ∀ later : List DeviceCall, (c.apply s).run later = (s.run later).charge cost ∧
          ∀ next, ((c.apply s).run later).answer next = (s.run later).answer next) ∧
    (∀ (s : ServiceStore) (c : Operation Service) (e : Error), c.IsWrite → c.answer s = .error e →
      ∃ cost, RefusalCost e cost ∧ c.apply s = s.charge cost ∧
        ∀ later : List (Operation Service), (c.apply s).run later = (s.run later).charge cost ∧
          ∀ next : Operation Service,
            next.answer ((c.apply s).run later) = next.answer (s.run later)) := by
  constructor
  · intro s c e hwrite herror
    obtain ⟨cost, hcost, hstore⟩ := DeviceStore.write_refused hwrite herror
    refine ⟨cost, hcost, hstore, fun later => ?_⟩
    rw [hstore, DeviceStore.run_charge]
    exact ⟨rfl, fun next => DeviceStore.answer_charge cost _ next⟩
  · intro s c e hwrite herror
    obtain ⟨cost, hcost, hstore⟩ := ServiceStore.write_refused hwrite herror
    refine ⟨cost, hcost, hstore, fun later => ?_⟩
    rw [hstore, ServiceStore.run_charge]
    exact ⟨rfl, fun next => (ServiceStore.unnoticed_charge cost).answer _ next⟩

/-- A device under an id that is taken, and a registration that is not there to be deleted. -/
theorem refused_writes_taken_missing :
    let s := DeviceStore.run {} [.record (.add .epoch { id := "a/b", ttl := -1 })]
    let t := ServiceStore.run {} [.add .epoch { id := "a/b", ttl := -1 }]
    (Operation.add .epoch { id := "a/b", ttl := 5 }).apply s = s.charge { rejected := 1 } ∧
      (Operation.delete "a/c").apply t = t.charge { lookups := 1, misses := 1 } := by
  intro s t
  constructor
  · obtain ⟨cost, hcost, hstore, -⟩ := refused_writes.1 s (.add .epoch { id := "a/b", ttl := 5 })
      (.invalid (.deviceExists "a/b")) trivial (by rfl)
    cases hcost
    exact hstore
  · obtain ⟨cost, hcost, hstore, -⟩ := refused_writes.2 t (.delete "a/c")
      (.missing (.entry "a/c")) trivial (by rfl)
    cases hcost
    exact hstore

end EdgeCatalog
