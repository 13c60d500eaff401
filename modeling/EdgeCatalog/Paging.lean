/-! Paging. Pages are counted from one; the last page may be short, and a page past the end is
empty. The arithmetic is that of 64-bit words. -/
namespace EdgeCatalog.Paging

/-- The number of units on a page: what was asked for, or the greatest number allowed when that is
zero or too much. At least one unit is allowed. -/
def pageSize (perPage maxPerPage : UInt64) : UInt64 :=
  let most := max maxPerPage 1
  if perPage = 0 ∨ most < perPage then most else perPage

/-- The page that is shown: the first one for zero. -/
def pageNumber (page : UInt64) : UInt64 :=
  max page 1

/-- The part of a list from one position up to another. -/
def slice {α : Type} (keys : List α) (start stop : UInt64) : List α :=
  (keys.take stop.toNat).drop start.toNat

/-- The units on a page. -/
def window {α : Type} (keys : List α) (page perPage maxPerPage : UInt64) : List α :=
  let page := pageNumber page
  let size := pageSize perPage maxPerPage
  let total := UInt64.ofNat keys.length
  let full := total / size
  if page = 1 then slice keys 0 (min size total)
  else if page = full + 1 then slice keys (size * (page - 1)) total
  else if page ≤ full ∧ page * size ≤ total then slice keys ((page - 1) * size) (page * size)
  else []

/-- The number of pages that show `total` units. -/
def pageCount (total perPage maxPerPage : UInt64) : UInt64 :=
  let size := pageSize perPage maxPerPage
  if total % size = 0 then total / size else total / size + 1

end EdgeCatalog.Paging

namespace EdgeCatalog

/-- One page of a listing: what is on it, and the number of units on all pages. -/
structure Page (α : Type) where
  items : List α
  total : Nat

end EdgeCatalog
