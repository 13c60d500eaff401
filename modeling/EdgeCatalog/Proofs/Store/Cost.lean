import Mathlib
import EdgeCatalog.Proofs.Metrics
import EdgeCatalog.Proofs.Store.Effect

/-! What calls cost. A call adds to the counters of a store an amount that its answer settles, and
records come and go as they are counted: a store that keeps book in this way has as many records as
were added and neither deleted nor swept away, as far as words can count. -/
namespace EdgeCatalog

theorem isOk_map {α β : Type} (result : Except Error α) (f : α → β) :
    (result.map f).isOk = result.isOk := by
  cases result <;> rfl

/-! ## Costs -/

namespace Cost

/-- The cost of looking for something. -/
def lookup (found : Bool) : Metrics :=
  { lookups := 1, misses := if found then 0 else 1 }

/-- The cost of a write: that of success, that of a lookup in vain, or that of a rejection. -/
def write {α : Type} (success : Metrics) : Except Error α → Metrics
  | .ok _ => success
  | .error (.missing _) => lookup false
  | .error _ => { rejected := 1 }

/-- How an answer is wrapped makes no difference to the cost. -/
theorem write_map {α β : Type} (success : Metrics) (result : Except Error α) (f : α → β) :
    write success (result.map f) = write success result := by
  cases result with
  | ok value => rfl
  | error e => cases e <;> rfl

theorem expired_write {α : Type} {success : Metrics} (h : success.expired = 0)
    (result : Except Error α) : (write success result).expired = 0 := by
  cases result with
  | ok value => exact h
  | error e => cases e <;> rfl

/-- The cost of a query: nothing if there is none to put. -/
def query (path relation value : String) : Metrics :=
  match Query.parse path relation value with
  | .ok _ => { queries := 1 }
  | .error _ => 0

end Cost

/-- What a call adds to the counters, given its answer. -/
def Operation.cost {ε : Type} (answer : Except Error (Reply ε)) : Operation ε → Metrics
  | .add _ _ => Cost.write { adds := 1 } answer
  | .update _ _ _ => Cost.write { updates := 1 } answer
  | .delete _ => Cost.write { deletes := 1 } answer
  | .cleanExpired _ =>
    match answer with
    | .ok (.count removed) => { expired := UInt64.ofNat removed }
    | _ => 0
  | .get _ => Cost.lookup answer.isOk
  | .getMany _ _ => { listings := 1 }
  | .filterOne path relation value => Cost.query path relation value
  | .filterMany path relation value _ _ => Cost.query path relation value

theorem Cost.expired_query (path relation value : String) :
    (query path relation value).expired = 0 := by
  rw [query]
  split <;> rfl

/-- Nothing but a sweep counts records as expired. -/
theorem Operation.expired_cost {ε : Type} {c : Operation ε} (h : ∀ now, c ≠ .cleanExpired now)
    (answer : Except Error (Reply ε)) : (c.cost answer).expired = 0 := by
  cases c with
  | add now entry => exact Cost.expired_write rfl answer
  | update now id entry => exact Cost.expired_write rfl answer
  | delete id => exact Cost.expired_write rfl answer
  | cleanExpired now => exact absurd rfl (h now)
  | get id => rfl
  | getMany page perPage => rfl
  | filterOne path relation value => exact Cost.expired_query path relation value
  | filterMany path relation value page perPage => exact Cost.expired_query path relation value

/-! ## Balance -/

namespace Metrics

variable {k k' : Metrics} {a b c n : Nat}

/-- The counters balance when as many records are there before as afterwards, but for those that are
counted as added, deleted or expired. -/
def Balances (k : Metrics) (before after : Nat) : Prop :=
  UInt64.ofNat before + k.adds = UInt64.ofNat after + k.deletes + k.expired

theorem Balances.trans (h : k.Balances a b) (h' : k'.Balances b c) : (k + k').Balances a c := by
  simp only [Balances, add_def] at h h' ⊢
  grind

/-- Whatever else is counted, the records stay. -/
theorem balances_of_idle (hadds : k.adds = 0) (hdeletes : k.deletes = 0) (hexpired : k.expired = 0)
    (n : Nat) : k.Balances n n := by
  rw [Balances, hadds, hdeletes, hexpired, UInt64.add_zero, UInt64.add_zero]

theorem balances_add (n : Nat) : Balances { adds := 1 } n (n + 1) := by
  simp [Balances]

theorem balances_delete (n : Nat) : Balances { deletes := 1 } (n + 1) n := by
  simp [Balances]

theorem balances_expire (removed n : Nat) :
    Balances { expired := UInt64.ofNat removed } (n + removed) n := by
  simp [Balances]

theorem balances_lookup (found : Bool) (n : Nat) : (Cost.lookup found).Balances n n :=
  balances_of_idle rfl rfl rfl n

theorem balances_query (path relation value : String) (n : Nat) :
    (Cost.query path relation value).Balances n n := by
  rw [Cost.query]
  split <;> exact balances_of_idle rfl rfl rfl n

/-- A write that is refused leaves the records alone. -/
theorem balances_refused {α : Type} (success : Metrics) (e : Error) (n : Nat) :
    (Cost.write success (.error e : Except Error α)).Balances n n := by
  cases e <;> exact balances_of_idle rfl rfl rfl n

end Metrics

section

variable {σ ε : Type} [RecordStore σ ε] [Perishable ε]

/-- A store, as long as it is one that calls leave, keeps book of its records: calls change the
records by their effects and the counters by their costs, what is added was not there before, and
what is updated or deleted was. -/
structure Bookkeeping (valid : σ → Prop) (records : σ → Table ε) : Prop where
  valid_apply : ∀ {s}, valid s → ∀ c : Operation ε, valid (c.apply s)
  records_apply : ∀ {s}, valid s → ∀ c : Operation ε,
    records (c.apply s) = Effect.apply (records s) (c.effect s)
  metrics_apply : ∀ {s}, valid s → ∀ c : Operation ε,
    RecordStore.metrics (c.apply s) = RecordStore.metrics s + c.cost (c.answer s)
  size_eq : ∀ {s}, valid s → RecordStore.size s = (records s).size
  added : ∀ {s}, valid s → ∀ {now entry r}, (RecordStore.add s now entry).result = .ok r →
    (records s).contains (Perishable.id entry) = false
  updated : ∀ {s}, valid s → ∀ {now id entry r},
    (RecordStore.update s now id entry).result = .ok r → (records s).contains id = true
  deleted : ∀ {s}, valid s → ∀ {id r}, (RecordStore.delete s id).result = .ok r →
    (records s).contains id = true
  removed_eq : ∀ {s}, valid s → ∀ now, (RecordStore.cleanExpired s now).removed =
    ((records s).filter fun r => !survives [now] r).size

variable {valid : σ → Prop} {records : σ → Table ε} {s : σ}

/-- The cost of a call balances the records. -/
theorem Bookkeeping.balances (h : Bookkeeping valid records) (hs : valid s) (c : Operation ε) :
    (c.cost (c.answer s)).Balances (records s).size (records (c.apply s)).size := by
  rw [h.records_apply hs]
  cases c with
  | add now entry =>
    rw [Operation.effect, Operation.answer]
    cases hresult : (RecordStore.add s now entry).result with
    | error e => exact Metrics.balances_refused _ e _
    | ok r =>
      rw [Effect.apply, Table.size_insert_of_new (h.added hs hresult)]
      exact Metrics.balances_add _
  | update now id entry =>
    rw [Operation.effect, Operation.answer]
    cases hresult : (RecordStore.update s now id entry).result with
    | error e => exact Metrics.balances_refused _ e _
    | ok r =>
      rw [Effect.apply, Table.size_insert_of_contains (h.updated hs hresult)]
      exact Metrics.balances_of_idle rfl rfl rfl _
  | delete id =>
    rw [Operation.effect, Operation.answer]
    cases hresult : (RecordStore.delete s id).result with
    | error e => exact Metrics.balances_refused _ e _
    | ok r =>
      rw [Effect.apply, ← Table.size_erase_of_contains (h.deleted hs hresult)]
      exact Metrics.balances_delete _
  | cleanExpired now =>
    have hparts := Table.size_filter_add_size_filter_not (survives [now]) (records s)
    rw [Operation.effect, Operation.answer, Operation.cost, h.removed_eq hs, Effect.apply, ← hparts]
    exact Metrics.balances_expire _ _
  | get id => exact Metrics.balances_lookup _ _
  | getMany page perPage => exact Metrics.balances_of_idle rfl rfl rfl _
  | filterOne path relation value => exact Metrics.balances_query path relation value _
  | filterMany path relation value page perPage =>
    exact Metrics.balances_query path relation value _

end

end EdgeCatalog
