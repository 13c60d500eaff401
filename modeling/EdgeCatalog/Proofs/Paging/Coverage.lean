import Mathlib
import EdgeCatalog.Proofs.Paging

/-! The number of pages and the pages themselves. They are computed apart, the one by a quotient
that is rounded up, the others by one that is rounded down; still, the pages that are counted are
those that show something, and they show the whole list. -/
namespace EdgeCatalog.Paging

variable {α : Type} {keys : List α} {page perPage maxPerPage count : UInt64}

/-! ## How much is on a page -/

theorem window_of_one_le (hlen : keys.length < 2 ^ 64) (hpage : 1 ≤ page) :
    window keys page perPage maxPerPage =
      (keys.drop ((page.toNat - 1) * (pageSize perPage maxPerPage).toNat)).take
        (pageSize perPage maxPerPage).toNat := by
  refine window_of_pageNumber hlen ?_
  rw [one_le_iff] at hpage
  rw [toNat_pageNumber]
  omega

theorem length_window (hlen : keys.length < 2 ^ 64) (hpage : 1 ≤ page)
    (perPage maxPerPage : UInt64) :
    (window keys page perPage maxPerPage).length =
      min (pageSize perPage maxPerPage).toNat
        (keys.length - (page.toNat - 1) * (pageSize perPage maxPerPage).toNat) := by
  rw [window_of_one_le hlen hpage, List.length_take, List.length_drop]

/-- The pages that show something are those that are counted. -/
theorem window_ne_nil_iff (hlen : keys.length < 2 ^ 64) (hpage : 1 ≤ page) :
    window keys page perPage maxPerPage ≠ [] ↔
      page ≤ pageCount (UInt64.ofNat keys.length) perPage maxPerPage := by
  have hpos := pageSize_pos perPage maxPerPage
  have hlength := length_window hlen hpage perPage maxPerPage
  rw [one_le_iff] at hpage
  rw [← List.length_pos_iff, hlength, UInt64.le_iff_toNat_le]
  constructor
  -- a page that shows something starts before the list ends, and the counted pages reach that far
  · intro hshown
    by_contra hpast
    have hreach := le_pageCount_mul hlen perPage maxPerPage
    have hmul := Nat.mul_le_mul_right (pageSize perPage maxPerPage).toNat
      (Nat.le_sub_one_of_lt (Nat.lt_of_not_le hpast))
    omega
  · intro hcounted
    have hstart : (page.toNat - 1) * (pageSize perPage maxPerPage).toNat < keys.length :=
      mul_lt_of_lt_pageCount hlen (by omega)
    omega

/-- A page that is followed by another is full. -/
theorem length_window_of_lt (hlen : keys.length < 2 ^ 64) (hpage : 1 ≤ page)
    (hnext : page < pageCount (UInt64.ofNat keys.length) perPage maxPerPage) :
    (window keys page perPage maxPerPage).length = (pageSize perPage maxPerPage).toNat := by
  rw [UInt64.lt_iff_toNat_lt] at hnext
  have hstart := mul_lt_of_lt_pageCount hlen hnext
  have hlength := length_window hlen hpage perPage maxPerPage
  rw [one_le_iff] at hpage
  obtain ⟨before, hbefore⟩ := Nat.exists_eq_add_of_le' hpage
  rw [hbefore, Nat.succ_mul] at hstart
  rw [hlength, hbefore, Nat.add_sub_cancel]
  omega

/-! ## The right number of pages -/

/-- So many pages show a list: all of it, once, in its order, and none of them in vain. -/
structure Covers (keys : List α) (perPage maxPerPage count : UInt64) : Prop where
  /-- The pages laid end to end are the list. -/
  flatten : ((List.range count.toNat).map fun i =>
    window keys (UInt64.ofNat (i + 1)) perPage maxPerPage).flatten = keys
  /-- Every page shows something. -/
  nonempty : ∀ page, 1 ≤ page → page ≤ count → window keys page perPage maxPerPage ≠ []
  /-- Every page before the last is full. -/
  full : ∀ page, 1 ≤ page → page < count →
    (window keys page perPage maxPerPage).length = (pageSize perPage maxPerPage).toNat
  /-- Every page after the last is empty. -/
  past : ∀ page, count < page → window keys page perPage maxPerPage = []
  /-- The pages that show something are the first so many. -/
  shows : ∀ page, 1 ≤ page → (window keys page perPage maxPerPage ≠ [] ↔ page ≤ count)

theorem covers_pageCount (hlen : keys.length < 2 ^ 64) (perPage maxPerPage : UInt64) :
    Covers keys perPage maxPerPage
      (pageCount (UInt64.ofNat keys.length) perPage maxPerPage) where
  flatten := flatten_pages hlen perPage maxPerPage
  nonempty _ hpage hcounted := (window_ne_nil_iff hlen hpage).mpr hcounted
  full _ hpage hnext := length_window_of_lt hlen hpage hnext
  past page hpast := by
    have hpage : 1 ≤ page := by
      rw [UInt64.lt_iff_toNat_lt] at hpast
      rw [one_le_iff]
      omega
    by_contra hshown
    exact UInt64.not_le.mpr hpast ((window_ne_nil_iff hlen hpage).mp hshown)
  shows _ hpage := window_ne_nil_iff hlen hpage

/-- The last of so many pages shows something, so that it is a page of any other number that
fits. -/
theorem Covers.le {other : UInt64} (h : Covers keys perPage maxPerPage count)
    (hother : Covers keys perPage maxPerPage other) : count ≤ other := by
  by_cases hzero : count = 0
  · rw [hzero]
    exact UInt64.zero_le
  · have hone : 1 ≤ count := by
      rw [one_le_iff, Nat.one_le_iff_ne_zero]
      exact fun h => hzero (UInt64.toNat.inj h)
    exact (hother.shows count hone).mp (h.nonempty count hone (UInt64.le_refl count))

/-- The number of pages is the only one that fits the pages. -/
theorem covers_iff (hlen : keys.length < 2 ^ 64) (perPage maxPerPage count : UInt64) :
    Covers keys perPage maxPerPage count ↔
      count = pageCount (UInt64.ofNat keys.length) perPage maxPerPage := by
  constructor
  · intro h
    have hcount := covers_pageCount hlen perPage maxPerPage
    exact UInt64.le_antisymm (h.le hcount) (hcount.le h)
  · rintro rfl
    exact covers_pageCount hlen perPage maxPerPage

/-- A short last page, and a list that ends with a full one. -/
theorem covers_eleven_and_ten :
    (List.range 11).length < 2 ^ 64 ∧ Covers (List.range 11) 5 100 3 ∧
      Covers (List.range 10) 500 5 2 := by
  have hlen : (List.range 11).length < 2 ^ 64 := by decide
  refine ⟨hlen, ?_, ?_⟩
  · exact (covers_iff hlen 5 100 3).mpr (by decide)
  · exact (covers_iff (by decide) 500 5 2).mpr (by decide)

end EdgeCatalog.Paging
