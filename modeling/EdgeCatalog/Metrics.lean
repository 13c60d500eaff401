import EdgeCatalog.Json.Basic

/-! Counters of what a store has done. They are 64-bit words and wrap. -/
namespace EdgeCatalog

structure Metrics where
  adds : UInt64 := 0
  updates : UInt64 := 0
  deletes : UInt64 := 0
  expired : UInt64 := 0
  /-- Writes refused because of their input. -/
  rejected : UInt64 := 0
  lookups : UInt64 := 0
  /-- Lookups that found nothing. -/
  misses : UInt64 := 0
  listings : UInt64 := 0
  queries : UInt64 := 0
  inconsistencies : UInt64 := 0
  deriving DecidableEq

namespace Metrics

instance : Inhabited Metrics := ⟨{}⟩

def recordAdd (m : Metrics) : Metrics :=
  { m with adds := m.adds + 1 }

def recordUpdate (m : Metrics) : Metrics :=
  { m with updates := m.updates + 1 }

def recordDelete (m : Metrics) : Metrics :=
  { m with deletes := m.deletes + 1 }

def recordExpired (m : Metrics) (count : UInt64) : Metrics :=
  { m with expired := m.expired + count }

def recordRejected (m : Metrics) : Metrics :=
  { m with rejected := m.rejected + 1 }

def recordLookup (m : Metrics) (found : Bool) : Metrics :=
  { m with
    lookups := m.lookups + 1
    misses := if found then m.misses else m.misses + 1 }

def recordListing (m : Metrics) : Metrics :=
  { m with listings := m.listings + 1 }

def recordQuery (m : Metrics) : Metrics :=
  { m with queries := m.queries + 1 }

def recordInconsistency (m : Metrics) : Metrics :=
  { m with inconsistencies := m.inconsistencies + 1 }

/-- The counters by the names under which they are exported. -/
def operations (m : Metrics) : List (String × UInt64) :=
  [("add", m.adds), ("update", m.updates), ("delete", m.deletes), ("expire", m.expired),
   ("reject", m.rejected), ("lookup", m.lookups), ("miss", m.misses), ("list", m.listings),
   ("filter", m.queries), ("consistency_error", m.inconsistencies)]

/-- The share of lookups that found something, zero before the first lookup. -/
def hitRatio (m : Metrics) : Float :=
  let lookups := m.lookups.toFloat
  if lookups == 0 then 0 else (lookups - m.misses.toFloat) / lookups

def ofWord (n : UInt64) : Json :=
  .ofNat n.toNat

/-- All counters by name. -/
def toJson (m : Metrics) : Json :=
  .object [
    ("adds", ofWord m.adds),
    ("consistency_errors", ofWord m.inconsistencies),
    ("deletes", ofWord m.deletes),
    ("expired", ofWord m.expired),
    ("filter_queries", ofWord m.queries),
    ("listings", ofWord m.listings),
    ("lookups", ofWord m.lookups),
    ("misses", ofWord m.misses),
    ("rejected", ofWord m.rejected),
    ("updates", ofWord m.updates)]

end Metrics

end EdgeCatalog
