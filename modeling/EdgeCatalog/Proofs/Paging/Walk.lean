import Mathlib
import EdgeCatalog.Proofs.Paging.Coverage

/-! Walking all pages. Whoever asks for one page after the other, as many as the total on the first
one calls for, is shown all items once and in their order; only the last page may be short, and
later pages are empty. -/
namespace EdgeCatalog.Paging

variable {α β : Type} {pageAt : UInt64 → Except Error (Page α)} {shown : List β → List α}
  {keys : List β} {perPage maxPerPage : UInt64}

/-- The items on all pages, from the first page to the last. The total on the first page tells how
many pages there are. -/
def walk (pageAt : UInt64 → Except Error (Page α)) (perPage maxPerPage : UInt64) :
    Except Error (List α) := do
  let front ← pageAt 1
  let count := pageCount (UInt64.ofNat front.total) perPage maxPerPage
  let pages ← (List.range count.toNat).mapM fun i => pageAt (UInt64.ofNat (i + 1))
  return pages.flatMap (·.items)

theorem walk_windows
    (h : ∀ page, pageAt page = .ok ⟨shown (window keys page perPage maxPerPage), keys.length⟩) :
    walk pageAt perPage maxPerPage = .ok ((pages keys perPage maxPerPage).flatMap shown) := by
  obtain rfl : pageAt = fun page =>
    .ok ⟨shown (window keys page perPage maxPerPage), keys.length⟩ := funext h
  rw [walk]
  show Except.bind (List.mapM (fun i => pure _) _) _ = _
  rw [List.mapM_pure, pages, List.flatMap_map]
  exact congrArg Except.ok (List.flatMap_map ..)

/-- Pages that share out so many units, as `count` counts them on a page: every page has the number
of all units for its total, no page comes short before the last, and none shows anything after it.
The number zero stands for the first page. -/
structure Shares (pageAt : UInt64 → Except Error (Page α)) (count : List α → Nat) (total : Nat)
    (perPage maxPerPage : UInt64) : Prop where
  total_eq : ∀ page, ∃ items, pageAt page = .ok ⟨items, total⟩
  full : ∀ page items, 1 ≤ page → page < pageCount (UInt64.ofNat total) perPage maxPerPage →
    pageAt page = .ok ⟨items, total⟩ → count items = (pageSize perPage maxPerPage).toNat
  past : ∀ page items, pageCount (UInt64.ofNat total) perPage maxPerPage < page →
    pageAt page = .ok ⟨items, total⟩ → items = []
  front : pageAt 0 = pageAt 1

theorem shares_windows
    (h : ∀ page, pageAt page = .ok ⟨shown (window keys page perPage maxPerPage), keys.length⟩)
    (hlen : keys.length < 2 ^ 64) {count : List α → Nat}
    (hcount : ∀ part, part.Sublist keys → count (shown part) = part.length)
    (hnil : shown [] = []) : Shares pageAt count keys.length perPage maxPerPage where
  total_eq page := ⟨_, h page⟩
  full page items hpage hnext hitems := by
    obtain rfl : shown (window keys page perPage maxPerPage) = items :=
      congrArg Page.items (Except.ok.inj ((h page).symm.trans hitems))
    rw [hcount _ (window_sublist keys page perPage maxPerPage)]
    exact length_window_of_lt hlen hpage hnext
  past page items hpast hitems := by
    obtain rfl : shown (window keys page perPage maxPerPage) = items :=
      congrArg Page.items (Except.ok.inj ((h page).symm.trans hitems))
    rw [(covers_pageCount hlen perPage maxPerPage).past page hpast, hnil]
  front := by
    rw [h, h]
    rfl

section Items

variable {items : List α}
  (h : ∀ page, pageAt page = .ok ⟨window items page perPage maxPerPage, items.length⟩)
  (hlen : items.length < 2 ^ 64)
include h hlen

/-- Whoever walks the pages of a list sees the list. -/
theorem walk_items : walk pageAt perPage maxPerPage = .ok items := by
  have hpages : ∀ page, pageAt page = .ok ⟨id (window items page perPage maxPerPage), _⟩ := h
  rw [walk_windows hpages, List.flatMap_id, flatten_pages hlen]

theorem shares_items : Shares pageAt List.length items.length perPage maxPerPage := by
  have hpages : ∀ page, pageAt page = .ok ⟨id (window items page perPage maxPerPage), _⟩ := h
  exact shares_windows hpages hlen (fun _ _ => rfl) rfl

end Items

end EdgeCatalog.Paging
