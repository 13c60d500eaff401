import Mathlib
import EdgeCatalog.Proofs.Query.Selection
import EdgeCatalog.Proofs.Service.Reading

/-! Listing registrations, selecting some of them page by page, and searching for one. All three go
through the registrations in the order of their ids, so what a selection shows is what a listing
shows, less the registrations that do not match, and a search finds the first item of a selection.
Where the query cannot be put to some registration, no page can be selected, but a search that ends
before that registration finds what it looks for. -/
namespace EdgeCatalog

/-- The first page is where the list begins. -/
theorem Paging.window_one {α : Type} {keys : List α} (hlen : keys.length < 2 ^ 64)
    (perPage maxPerPage : UInt64) :
    window keys 1 perPage maxPerPage = keys.take (pageSize perPage maxPerPage).toNat := by
  rw [window_of_one_le hlen (UInt64.le_refl 1), UInt64.toNat_one, Nat.sub_self, Nat.zero_mul,
    List.drop_zero]

namespace ServiceStore

open ServiceTables (Stands)

/-- The registrations can be counted in a word. It is so of everything that is held in memory. -/
def Addressable (s : ServiceStore) : Prop :=
  s.size < 2 ^ 64

instance (s : ServiceStore) : Decidable s.Addressable :=
  inferInstanceAs (Decidable (_ < _))

/-- What is selected of the registrations `listed`, and what is found among them. -/
structure FiltersAgree (s : ServiceStore) (q : Query) (path relation value : String)
    (perPage : UInt64) (listed : List Service) : Prop where
  selects : q.Selects Service.toJson listed
    (fun page => (s.filterMany path relation value page perPage).result) perPage s.maxPerPage
  /-- If all of them match, the pages are those of the listing. -/
  all : (∀ x ∈ listed, q.eval x.toJson = .ok true) → ∀ page,
    (s.filterMany path relation value page perPage).result = (s.getMany page perPage).result
  /-- What is found is the first item of the first page. -/
  first : ∀ shown, (s.filterMany path relation value 1 perPage).result = .ok shown →
    0 < shown.total →
    ∃ x rest, shown.items = x :: rest ∧ (s.filterOne path relation value).result = .ok x
  none : ∀ shown, (s.filterMany path relation value 1 perPage).result = .ok shown →
    shown.total = 0 → (s.filterOne path relation value).result =
      .error (.missing (.matching .registration path relation value))
  /-- Whether or not there are pages, the first registration that matches is found, unless the
  query cannot be put to one before it. -/
  finds : ∀ result, (s.filterOne path relation value).result = result ↔
    q.Finds Service.toJson listed (.matching .registration path relation value) result

variable {s : ServiceStore} {m : Table Service} {q : Query} {path relation value : String}
  {found : List Service}

theorem lists_values (h : s.tables.Stands m) :
    Lists (fun id => (s.get id).result) Service.id m.values := by
  refine Table.lists (fun {id service} => ?_) h.id_eq
  rw [get_eq h]
  exact ServiceMap.get_eq_ok_iff

theorem length_values (h : s.tables.Stands m) : m.values.length = s.size := by
  rw [Table.length_values, size_eq h]

theorem result_getMany (h : s.tables.Stands m) (page perPage : UInt64) :
    (s.getMany page perPage).result =
      .ok ⟨Paging.window m.values page perPage s.maxPerPage, m.values.length⟩ := by
  rw [getMany_eq h, Table.length_values]

/-- Once the query was put to every registration, what it found is paged. -/
theorem result_filterMany (h : s.tables.Stands m) (hq : Query.parse path relation value = .ok q)
    (hfound : q.select Service.toJson m.values = .ok found) (page perPage : UInt64) :
    (s.filterMany path relation value page perPage).result =
      .ok ⟨Paging.window found page perPage s.maxPerPage, found.length⟩ := by
  rw [filterMany_eq h hq, hfound]
  rfl

/-- What is found is the first of what is selected. -/
theorem result_filterOne (h : s.tables.Stands m) (hq : Query.parse path relation value = .ok q)
    (hfound : q.select Service.toJson m.values = .ok found) :
    (s.filterOne path relation value).result =
      found.head?.elim (.error (.missing (.matching .registration path relation value))) .ok := by
  rw [filterOne_eq h hq]
  exact Query.search_of_select hfound _

theorem filtersAgree (h : s.tables.Stands m) (hword : s.Addressable)
    (hq : Query.parse path relation value = .ok q) (perPage : UInt64) :
    s.FiltersAgree q path relation value perPage m.values where
  selects := by
    have hfits : m.values.length < 2 ^ 64 := length_values h ▸ hword
    exact Query.selects_windows (fun page => by rw [filterMany_eq h hq]) hfits
  all heval page := by
    have hall : (m.values.filter fun x => q.hits x.toJson) = m.values :=
      List.filter_eq_self.mpr fun x hx => Query.hits_of_eval (heval x hx)
    have hfound := Query.select_of_forall fun x hx => ⟨true, heval x hx⟩
    rw [hall] at hfound
    rw [result_filterMany h hq hfound, result_getMany h]
  first shown hshown hsome := by
    obtain ⟨q', found, hq', hfound, rfl⟩ := select_of_filterMany h hshown
    obtain rfl := Except.ok.inj (hq.symm.trans hq')
    have hfits : found.length < 2 ^ 64 :=
      (Query.sublist_of_select hfound).length_le.trans_lt (length_values h ▸ hword)
    obtain ⟨x, rest, rfl⟩ := List.exists_cons_of_length_pos hsome
    obtain ⟨n, hsize⟩ := Nat.exists_eq_succ_of_ne_zero
      (Paging.pageSize_pos perPage s.maxPerPage).ne'
    refine ⟨x, rest.take n, ?_, result_filterOne h hq hfound⟩
    show Paging.window (x :: rest) 1 perPage s.maxPerPage = _
    rw [Paging.window_one hfits, hsize, List.take_succ_cons]
  none shown hshown hzero := by
    obtain ⟨q', found, hq', hfound, rfl⟩ := select_of_filterMany h hshown
    obtain rfl := Except.ok.inj (hq.symm.trans hq')
    obtain rfl := List.eq_nil_of_length_eq_zero hzero
    exact result_filterOne h hq hfound
  finds result := by
    rw [filterOne_eq h hq]
    exact Query.search_eq_iff

/-- What a listing, a selection and a search make of the registrations. The listing shows all of
them, in the order of their ids. -/
theorem Reachable.filters_agree (h : s.Reachable) (hword : s.Addressable) (perPage : UInt64) :
    ∃ listed, Lists (fun id => (s.get id).result) Service.id listed ∧ listed.length = s.size ∧
      Paging.walk (fun page => (s.getMany page perPage).result) perPage s.maxPerPage =
        .ok listed ∧
      Paging.Shares (fun page => (s.getMany page perPage).result) List.length s.size perPage
        s.maxPerPage ∧
      ∀ path relation value q, Query.parse path relation value = .ok q →
        s.FiltersAgree q path relation value perPage listed := by
  have hlen := length_values h.stands
  have hfits : s.tables.data.values.length < 2 ^ 64 := hlen ▸ hword
  have hpages := fun page => result_getMany h.stands page perPage
  refine ⟨_, lists_values h.stands, hlen, Paging.walk_items hpages hfits, ?_, ?_⟩
  · have hshares := Paging.shares_items hpages hfits
    rwa [hlen] at hshares
  · exact fun path relation value q hq => filtersAgree h.stands hword hq perPage

/-- The room of the last registration is no text, so no page can be selected by it; the lamp in the
hall is found all the same. -/
theorem filters_agree_hall :
    let s := run { maxPerPage := 2 } [
      .add .epoch { id := "a/lamp", ttl := -1, metadata := .ofFields [("room", .string "hall")] },
      .add .epoch { id := "a/door", ttl := -1 },
      .add .epoch { id := "a/meter", ttl := -1, metadata := .ofFields [("room", .bool true)] }]
    s.Reachable ∧ s.Addressable ∧ ∃ listed, listed.length = 3 ∧
      s.FiltersAgree ⟨["meta", "room"], .equals, "hall"⟩ "meta.room" "equals" "hall" 0 listed ∧
      (s.filterMany "meta.room" "equals" "hall" 1 0).result.isOk = false ∧
      ∃ x ∈ listed, (s.filterOne "meta.room" "equals" "hall").result = .ok x := by
  intro s
  have hs : s.Reachable := ⟨2, _, rfl⟩
  have hword : s.Addressable := by decide +kernel
  have hq : Query.parse "meta.room" "equals" "hall" =
      .ok ⟨["meta", "room"], .equals, "hall"⟩ := by decide +kernel
  obtain ⟨listed, -, hlen, -, -, hfilters⟩ := hs.filters_agree hword 0
  have hagree := hfilters _ _ _ _ hq
  refine ⟨hs, hword, listed, hlen.trans (by decide +kernel), hagree, by decide +kernel, ?_⟩
  have hone : (s.filterOne "meta.room" "equals" "hall").result.isOk = true := by decide +kernel
  cases hx : (s.filterOne "meta.room" "equals" "hall").result with
  | error e =>
    rw [hx] at hone
    cases hone
  | ok x =>
    exact ⟨x, ((hagree.finds _).mp hx).mem, rfl⟩

end ServiceStore

end EdgeCatalog
