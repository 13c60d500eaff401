import Mathlib
import EdgeCatalog.Proofs.Paging.Walk
import EdgeCatalog.Proofs.Query.Scan

/-! Selecting page by page. Every page selects anew among all records, so the pages fail together;
where they do not, they are the pages of one list, that of the records that match. -/
namespace EdgeCatalog.Query

variable {α : Type} {q : Query} {tree : α → Json} {records : List α}
  {pageAt : UInt64 → Except Error (Page α)} {perPage maxPerPage : UInt64}

/-- Pages that show the records that match, in their order, unless the query cannot be put to some
record. -/
structure Selects (q : Query) (tree : α → Json) (records : List α)
    (pageAt : UInt64 → Except Error (Page α)) (perPage maxPerPage : UInt64) : Prop where
  stops : ∀ page, q.Stops tree records (pageAt page)
  walk : (∀ x ∈ records, ∃ hit, q.eval (tree x) = .ok hit) →
    Paging.walk pageAt perPage maxPerPage = .ok (records.filter fun x => q.hits (tree x))
  shares : (∀ x ∈ records, ∃ hit, q.eval (tree x) = .ok hit) →
    Paging.Shares pageAt List.length (records.filter fun x => q.hits (tree x)).length perPage
      maxPerPage

theorem selects_windows
    (h : ∀ page, pageAt page = (q.select tree records).map fun found =>
      ⟨Paging.window found page perPage maxPerPage, found.length⟩)
    (hlen : records.length < 2 ^ 64) : q.Selects tree records pageAt perPage maxPerPage := by
  have hpages (heval : ∀ x ∈ records, ∃ hit, q.eval (tree x) = .ok hit) (page : UInt64) :
      pageAt page = .ok ⟨Paging.window (records.filter fun x => q.hits (tree x)) page perPage
        maxPerPage, (records.filter fun x => q.hits (tree x)).length⟩ := by
    rw [h, select_of_forall heval]
    rfl
  have hfits : (records.filter fun x => q.hits (tree x)).length < 2 ^ 64 :=
    (List.length_filter_le _ _).trans_lt hlen
  refine ⟨fun page => ?_, fun heval => ?_, fun heval => ?_⟩
  · rw [h]
    exact (stops_select q tree records).map _
  · exact Paging.walk_items (hpages heval) hfits
  · exact Paging.shares_items (hpages heval) hfits

end EdgeCatalog.Query
