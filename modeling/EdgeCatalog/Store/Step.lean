import EdgeCatalog.Log
import EdgeCatalog.Metrics
import EdgeCatalog.Paging
import EdgeCatalog.Instant.Basic

/-! What the operations of a store have in common. -/
namespace EdgeCatalog

/-- The outcome of an operation: its result, the store it leaves, and what it logs. -/
structure Step (σ α : Type) where
  result : Except Error α
  store : σ
  events : List Event := []

/-- The outcome of a sweep, which cannot fail: how many records it removed. -/
structure Swept (σ : Type) where
  removed : Nat
  store : σ
  events : List Event := []

/-- A store `σ` of records `ε`. Whatever depends on the time takes the reading of a clock. -/
class RecordStore (σ : Type) (ε : outParam Type) where
  add : σ → Instant → ε → Step σ ε
  update : σ → Instant → String → ε → Step σ ε
  delete : σ → String → Step σ ε
  get : σ → String → Step σ ε
  getMany : σ → UInt64 → UInt64 → Step σ (Page ε)
  filterOne : σ → String → String → String → Step σ ε
  filterMany : σ → String → String → String → UInt64 → UInt64 → Step σ (Page ε)
  cleanExpired : σ → Instant → Swept σ
  size : σ → Nat
  metrics : σ → Metrics
  resetMetrics : σ → σ
  /-- A short description of the contents. -/
  summary : σ → String

/-- The configuration of a store, as its description shows it. -/
def storeConfigText (maxPerPage : UInt64) : String :=
  "StoreConfig \x7b max_per_page: " ++ toString maxPerPage ++ " \x7d"

end EdgeCatalog
