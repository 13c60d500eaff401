import Mathlib
import EdgeCatalog.Paging

/-! Pages of a list whose length is a word: a page is a stretch of the list, the pages laid end to
end are the list, and each is full but the last. Nothing in the arithmetic overflows then. -/
namespace EdgeCatalog.Paging

variable {α : Type} {keys : List α}

/-! ## Words -/

theorem toNat_max (a b : UInt64) : (max a b).toNat = max a.toNat b.toNat := by
  show (if a ≤ b then b else a).toNat = _
  split
  · rename_i h
    rw [UInt64.le_iff_toNat_le] at h
    omega
  · rename_i h
    rw [UInt64.le_iff_toNat_le] at h
    omega

theorem toNat_min (a b : UInt64) : (min a b).toNat = min a.toNat b.toNat := by
  show (if a ≤ b then a else b).toNat = _
  split
  · rename_i h
    rw [UInt64.le_iff_toNat_le] at h
    omega
  · rename_i h
    rw [UInt64.le_iff_toNat_le] at h
    omega

theorem toNat_ofNat_of_lt {n : Nat} (h : n < 2 ^ 64) : (UInt64.ofNat n).toNat = n := by
  rw [UInt64.toNat_ofNat']
  exact Nat.mod_eq_of_lt h

theorem one_le_iff {a : UInt64} : 1 ≤ a ↔ 1 ≤ a.toNat := by
  rw [UInt64.le_iff_toNat_le, UInt64.toNat_one]

section Quotient

variable {count size total : UInt64}

/-- As many pages as are full hold no more units than there are. -/
theorem toNat_mul_le_of_le_div (h : count ≤ total / size) :
    count.toNat * size.toNat ≤ total.toNat := by
  rw [UInt64.le_iff_toNat_le, UInt64.toNat_div] at h
  exact Nat.mul_le_of_le_div _ _ _ h

theorem toNat_mul_lt_of_le_div (h : count ≤ total / size) :
    count.toNat * size.toNat < 2 ^ 64 :=
  (toNat_mul_le_of_le_div h).trans_lt total.toNat_lt

theorem toNat_mul_of_le_div (h : count ≤ total / size) :
    (count * size).toNat = count.toNat * size.toNat := by
  rw [UInt64.toNat_mul, Nat.mod_eq_of_lt (toNat_mul_lt_of_le_div h)]

theorem mul_le_of_le_div (h : count ≤ total / size) : count * size ≤ total := by
  rw [UInt64.le_iff_toNat_le, toNat_mul_of_le_div h]
  exact toNat_mul_le_of_le_div h

theorem sub_one_le (h : 1 ≤ count) : count - 1 ≤ count := by
  rw [UInt64.le_iff_toNat_le, UInt64.toNat_sub_of_le _ _ h]
  exact Nat.sub_le _ _

end Quotient

theorem pageSize_pos (perPage maxPerPage : UInt64) : 0 < (pageSize perPage maxPerPage).toNat := by
  have hmost := toNat_max maxPerPage 1
  have hone : (1 : UInt64).toNat = 1 := rfl
  unfold pageSize
  dsimp only
  split
  · omega
  · rename_i hne
    have hzero : perPage.toNat ≠ 0 := fun h => hne (.inl (UInt64.toNat.inj h))
    omega

theorem toNat_pageNumber (page : UInt64) : (pageNumber page).toNat = max page.toNat 1 :=
  toNat_max page 1

theorem one_le_pageNumber (page : UInt64) : 1 ≤ pageNumber page := by
  rw [one_le_iff, toNat_pageNumber]
  exact Nat.le_max_right _ _

/-- The number of pages is the number of units by the size of a page, rounded up. -/
theorem toNat_pageCount {total : Nat} (htotal : total < 2 ^ 64) (perPage maxPerPage : UInt64) :
    (pageCount (UInt64.ofNat total) perPage maxPerPage).toNat =
      (total + (pageSize perPage maxPerPage).toNat - 1) / (pageSize perPage maxPerPage).toNat := by
  have hpos := pageSize_pos perPage maxPerPage
  unfold pageCount
  dsimp only
  generalize pageSize perPage maxPerPage = size at hpos
  have hmod : (UInt64.ofNat total % size).toNat = total % size.toNat := by
    rw [UInt64.toNat_mod, toNat_ofNat_of_lt htotal]
  have hdiv : (UInt64.ofNat total / size).toNat = total / size.toNat := by
    rw [UInt64.toNat_div, toNat_ofNat_of_lt htotal]
  have hsplit := Nat.div_add_mod' total size.toNat
  have hlt := Nat.mod_lt total hpos
  symm
  split
  · rename_i hzero
    have hnone : total % size.toNat = 0 := by rw [← hmod, hzero]; rfl
    rw [hdiv]
    refine Nat.div_eq_of_lt_le ?_ ?_
    · omega
    · rw [Nat.succ_mul]
      omega
  · rename_i hrest
    have hsome : total % size.toNat ≠ 0 := fun h => hrest (UInt64.toNat.inj (hmod.trans h))
    -- a size that leaves a rest is not one, so that the quotient is far from the end of the words
    have hsize : 2 ≤ size.toNat := by omega
    have hsmall : total / size.toNat < 2 ^ 63 := by
      rw [Nat.div_lt_iff_lt_mul hpos]
      omega
    rw [UInt64.toNat_add, hdiv, UInt64.toNat_one, Nat.mod_eq_of_lt (by omega)]
    refine Nat.div_eq_of_lt_le ?_ ?_
    · rw [Nat.succ_mul]
      omega
    · rw [Nat.succ_mul, Nat.succ_mul]
      omega

/-! ## A page as a stretch of the list -/

/-- A slice is a page when it starts where the page does and is as long, as far as the list goes. -/
theorem slice_eq {start stop : UInt64} {before size : Nat}
    (hstart : start.toNat = before * size)
    (hstop : min (stop.toNat - before * size) (keys.length - before * size) =
      min size (keys.length - before * size)) :
    slice keys start stop = (keys.drop (before * size)).take size := by
  rw [slice, List.drop_take, hstart]
  refine List.take_eq_take_iff.mpr ?_
  rw [List.length_drop]
  exact hstop

/-- A page shows a stretch of the list. -/
theorem isInfix_window (keys : List α) (page perPage maxPerPage : UInt64) :
    window keys page perPage maxPerPage <:+: keys := by
  have hslice (start stop : UInt64) : slice keys start stop <:+: keys :=
    (List.drop_suffix _ _).isInfix.trans (List.take_prefix _ _).isInfix
  unfold window
  dsimp only
  split
  · exact hslice _ _
  · split
    · exact hslice _ _
    · split
      · exact hslice _ _
      · exact List.nil_infix

theorem window_sublist (keys : List α) (page perPage maxPerPage : UInt64) :
    (window keys page perPage maxPerPage).Sublist keys :=
  (isInfix_window keys page perPage maxPerPage).sublist

/-- Windows are cut by position alone. -/
theorem window_map {β : Type} (f : α → β) (keys : List α) (page perPage maxPerPage : UInt64) :
    window (keys.map f) page perPage maxPerPage = (window keys page perPage maxPerPage).map f := by
  have hslice (start stop : UInt64) : slice (keys.map f) start stop = (slice keys start stop).map f := by
    rw [slice, slice, List.map_drop, List.map_take]
  rw [window, window, List.length_map]
  split_ifs
  · exact hslice _ _
  · exact hslice _ _
  · exact hslice _ _
  · rfl

/-- The stretch of the list that a page shows, given by what comes before it. -/
theorem window_of_pageNumber (hlen : keys.length < 2 ^ 64) {page perPage maxPerPage : UInt64}
    {before : Nat} (hbefore : (pageNumber page).toNat = before + 1) :
    window keys page perPage maxPerPage =
      (keys.drop (before * (pageSize perPage maxPerPage).toNat)).take
        (pageSize perPage maxPerPage).toNat := by
  have hpos := pageSize_pos perPage maxPerPage
  have hone := one_le_pageNumber page
  unfold window
  dsimp only
  generalize pageSize perPage maxPerPage = size at hpos
  generalize pageNumber page = p at hbefore hone
  have htotal := toNat_ofNat_of_lt hlen
  generalize UInt64.ofNat keys.length = total at htotal
  have hfull : (total / size).toNat = keys.length / size.toNat := by
    rw [UInt64.toNat_div, htotal]
  have hsplit := Nat.div_add_mod' keys.length size.toNat
  have hlt := Nat.mod_lt keys.length hpos
  have hprev : (p - 1).toNat = before := by
    rw [UInt64.toNat_sub_of_le _ _ hone, UInt64.toNat_one, hbefore, Nat.add_sub_cancel]
  by_cases hfirst : p = 1
  -- the first page
  · rw [if_pos hfirst]
    obtain rfl : before = 0 := by
      rw [hfirst, UInt64.toNat_one] at hbefore
      omega
    refine slice_eq (by rw [Nat.zero_mul]; rfl) ?_
    rw [toNat_min, htotal]
    omega
  rw [if_neg hfirst]
  by_cases hlast : p = total / size + 1
  -- the last page, which may be short
  · rw [if_pos hlast]
    have hall : p - 1 = total / size := by rw [hlast, UInt64.add_sub_cancel]
    have hstart : (size * (p - 1)).toNat = before * size.toNat := by
      rw [UInt64.mul_comm, toNat_mul_of_le_div (UInt64.le_of_eq hall), hprev]
    obtain rfl : before = keys.length / size.toNat := by rw [← hprev, hall, hfull]
    refine slice_eq hstart ?_
    rw [htotal]
    omega
  rw [if_neg hlast]
  by_cases hin : p ≤ total / size
  -- a page between the first and the last
  · rw [if_pos ⟨hin, mul_le_of_le_div hin⟩]
    have hstart := toNat_mul_of_le_div (UInt64.le_trans (sub_one_le hone) hin)
    have hstop := toNat_mul_of_le_div hin
    have hfits := toNat_mul_le_of_le_div hin
    rw [hprev] at hstart
    rw [hbefore, Nat.succ_mul] at hstop hfits
    refine slice_eq hstart ?_
    rw [hstop]
    omega
  -- past the last page
  · rw [if_neg fun h => hin h.1]
    have hpast : keys.length / size.toNat + 1 ≤ before := by
      rw [UInt64.le_iff_toNat_le, hfull, hbefore] at hin
      have hne : before ≠ keys.length / size.toNat := by
        intro heq
        refine hlast ?_
        rw [← UInt64.sub_add_cancel p 1, UInt64.toNat.inj (hprev.trans (heq.trans hfull.symm))]
      omega
    have hover := Nat.mul_le_mul_right size.toNat hpast
    rw [Nat.succ_mul] at hover
    rw [List.drop_eq_nil_of_le (by omega), List.take_nil]

/-! ## All pages -/

/-- The pages of a list, from the first one to the last. -/
def pages (keys : List α) (perPage maxPerPage : UInt64) : List (List α) :=
  (List.range (pageCount (UInt64.ofNat keys.length) perPage maxPerPage).toNat).map fun i =>
    window keys (UInt64.ofNat (i + 1)) perPage maxPerPage

variable {perPage maxPerPage : UInt64}

theorem length_pages :
    (pages keys perPage maxPerPage).length =
      (pageCount (UInt64.ofNat keys.length) perPage maxPerPage).toNat := by
  rw [pages, List.length_map, List.length_range]

/-- The page at a position, counted from zero. -/
theorem window_ofNat_succ (hlen : keys.length < 2 ^ 64) {i : Nat} (hi : i + 1 < 2 ^ 64) :
    window keys (UInt64.ofNat (i + 1)) perPage maxPerPage =
      (keys.drop (i * (pageSize perPage maxPerPage).toNat)).take
        (pageSize perPage maxPerPage).toNat := by
  refine window_of_pageNumber hlen ?_
  rw [toNat_pageNumber, toNat_ofNat_of_lt hi]
  omega

theorem pages_eq (hlen : keys.length < 2 ^ 64) :
    pages keys perPage maxPerPage =
      (List.range (pageCount (UInt64.ofNat keys.length) perPage maxPerPage).toNat).map fun i =>
        (keys.drop (i * (pageSize perPage maxPerPage).toNat)).take
          (pageSize perPage maxPerPage).toNat := by
  refine List.map_congr_left fun i hi => window_ofNat_succ hlen ?_
  have hcount := (pageCount (UInt64.ofNat keys.length) perPage maxPerPage).toNat_lt
  rw [List.mem_range] at hi
  omega

/-- Consecutive stretches of one size make up the beginning of the list. -/
theorem flatten_stretches (keys : List α) (size count : Nat) :
    ((List.range count).map fun i => (keys.drop (i * size)).take size).flatten =
      keys.take (count * size) := by
  induction count with
  | zero => simp
  | succ count ih =>
    rw [List.range_succ, List.map_append, List.flatten_append, ih, List.map_singleton,
      List.flatten_singleton, Nat.succ_mul, List.take_add]

/-- The last page ends where the list does. -/
theorem le_pageCount_mul {total : Nat} (htotal : total < 2 ^ 64) (perPage maxPerPage : UInt64) :
    total ≤ (pageCount (UInt64.ofNat total) perPage maxPerPage).toNat *
      (pageSize perPage maxPerPage).toNat := by
  have hpos := pageSize_pos perPage maxPerPage
  rw [toNat_pageCount htotal]
  generalize (pageSize perPage maxPerPage).toNat = size at hpos
  have hsplit := Nat.div_add_mod' (total + size - 1) size
  have hlt := Nat.mod_lt (total + size - 1) hpos
  omega

/-- Every page begins before the list ends. -/
theorem mul_lt_of_lt_pageCount {total : Nat} (htotal : total < 2 ^ 64) {i : Nat}
    (hi : i < (pageCount (UInt64.ofNat total) perPage maxPerPage).toNat) :
    i * (pageSize perPage maxPerPage).toNat < total := by
  have hpos := pageSize_pos perPage maxPerPage
  rw [toNat_pageCount htotal] at hi
  generalize (pageSize perPage maxPerPage).toNat = size at hpos hi
  have hle := (Nat.mul_le_mul_right size hi).trans (Nat.div_mul_le_self _ _)
  rw [Nat.succ_mul] at hle
  omega

/-- The pages laid end to end are the list. -/
theorem flatten_pages (hlen : keys.length < 2 ^ 64) (perPage maxPerPage : UInt64) :
    (pages keys perPage maxPerPage).flatten = keys := by
  rw [pages_eq hlen, flatten_stretches]
  exact List.take_of_length_le (le_pageCount_mul hlen perPage maxPerPage)

/-- All pages but the last are full. -/
theorem length_page (hlen : keys.length < 2 ^ 64) {i : Nat}
    (hi : i < (pages keys perPage maxPerPage).length) :
    (pages keys perPage maxPerPage)[i].length ≤ (pageSize perPage maxPerPage).toNat ∧
      (i + 1 < (pages keys perPage maxPerPage).length →
        (pages keys perPage maxPerPage)[i].length = (pageSize perPage maxPerPage).toNat) := by
  simp only [pages_eq hlen, List.getElem_map, List.getElem_range, List.length_take,
    List.length_drop, List.length_map, List.length_range]
  refine ⟨by omega, fun hnext => ?_⟩
  have hlt := mul_lt_of_lt_pageCount hlen hnext
  rw [Nat.succ_mul] at hlt
  omega

/-- Pages are counted from one, zero stands for the first one, and there is nothing past the last
one. -/
theorem window_eq (hlen : keys.length < 2 ^ 64) (page perPage maxPerPage : UInt64) :
    window keys page perPage maxPerPage =
      (pages keys perPage maxPerPage)[(pageNumber page).toNat - 1]?.getD [] := by
  obtain ⟨before, hbefore⟩ : ∃ before, (pageNumber page).toNat = before + 1 :=
    ⟨(pageNumber page).toNat - 1, by rw [toNat_pageNumber]; omega⟩
  rw [window_of_pageNumber hlen hbefore, hbefore, Nat.add_sub_cancel, pages_eq hlen,
    List.getElem?_map]
  by_cases hin : before < (pageCount (UInt64.ofNat keys.length) perPage maxPerPage).toNat
  · rw [List.getElem?_range hin]
    rfl
  · have hle := le_pageCount_mul hlen perPage maxPerPage
    have hpast := Nat.mul_le_mul_right (pageSize perPage maxPerPage).toNat (not_lt.mp hin)
    rw [List.getElem?_eq_none (by rw [List.length_range]; omega), List.drop_eq_nil_of_le (by omega),
      List.take_nil]
    rfl

end EdgeCatalog.Paging
