import Mathlib
import EdgeCatalog.Proofs.Id.Grammar
import EdgeCatalog.Proofs.Text.Order

/-! The order of paging units. All units of a record begin alike, with its block, and the blocks of
two records decide how any of their units compare. The blocks are in the order of the ids but for
one case: an id with a slash behind it comes after an id that goes on with a character below the
slash. -/
namespace EdgeCatalog.Id

/-- How the units of a record begin: with its id, and a slash if its units are resources. -/
def block (id : String) (bare : Bool) : List Char :=
  id.toList ++ if bare then [] else ['/']

/-- A unit of a record: the record itself if it is bare, and otherwise one of its resources. -/
def IsUnit (id : String) (bare : Bool) (key : String) : Prop :=
  if bare then key = id else IsResource id key

variable {a b key key' : String} {bareA bareB : Bool}

theorem IsUnit.toList_eq (h : IsUnit a bareA key) :
    ∃ rest, key.toList = block a bareA ++ rest ∧ (bareA = true → rest = []) := by
  cases bareA with
  | true =>
    obtain rfl : key = a := h
    exact ⟨[], by simp [block], fun _ => rfl⟩
  | false =>
    obtain ⟨name, -, rfl⟩ : IsResource a key := h
    exact ⟨name.toList, by simp [block], fun h => by cases h⟩

/-- An id with a slash behind it is no beginning of the units of another record. -/
theorem bare_of_block_begins (ha : IsRecord a) (hb : IsRecord b) (hne : a ≠ b)
    (hp : block a bareA <+: block b bareB) : bareA = true := by
  by_contra hbare
  obtain rfl : bareA = false := Bool.eq_false_iff.mpr hbare
  obtain ⟨rest, hrest⟩ := hp
  rw [block, if_neg Bool.false_ne_true, List.append_assoc, List.singleton_append] at hrest
  have hcount := congrArg (List.count '/') hrest
  rw [List.count_append, List.count_cons_self, ha.count_slash] at hcount
  cases bareB with
  | true =>
    rw [block, if_pos rfl, List.append_nil, hb.count_slash] at hcount
    omega
  | false =>
    rw [block, if_neg Bool.false_ne_true] at hrest hcount
    rw [List.count_append, hb.count_slash, List.count_singleton_self] at hcount
    have hslash : '/' ∉ rest := List.count_eq_zero.mp (by omega)
    exact hne (String.toList_inj.mp (last_slash_unique hslash List.not_mem_nil hrest).1)

/-- Units are ordered as the blocks are. -/
theorem unit_lt_of_block_lt (ha : IsRecord a) (hb : IsRecord b) (hne : a ≠ b)
    (hk : IsUnit a bareA key) (hk' : IsUnit b bareB key')
    (hlt : block a bareA < block b bareB) : key < key' := by
  obtain ⟨rest, hrest, hnil⟩ := hk.toList_eq
  obtain ⟨rest', hrest', -⟩ := hk'.toList_eq
  show key.toList < key'.toList
  rw [hrest, hrest']
  exact Text.append_lt_append_of_lt hlt
    (fun hp => hnil (bare_of_block_begins ha hb hne hp)) rest'

theorem block_ne (ha : IsRecord a) (hb : IsRecord b) (hne : a ≠ b) :
    block a bareA ≠ block b bareB := by
  intro heq
  have hbareA := bare_of_block_begins ha hb hne ⟨[], by rw [List.append_nil, heq]⟩
  have hbareB := bare_of_block_begins hb ha hne.symm ⟨[], by rw [List.append_nil, heq]⟩
  rw [hbareA, hbareB] at heq
  simp only [block, if_pos, List.append_nil] at heq
  exact hne (String.toList_inj.mp heq)

theorem unit_lt_iff (ha : IsRecord a) (hb : IsRecord b) (hne : a ≠ b)
    (hk : IsUnit a bareA key) (hk' : IsUnit b bareB key') :
    key < key' ↔ block a bareA < block b bareB := by
  refine ⟨fun hlt => ?_, unit_lt_of_block_lt ha hb hne hk hk'⟩
  rcases lt_trichotomy (block a bareA) (block b bareB) with h | h | h
  · exact h
  · exact absurd h (block_ne ha hb hne)
  · exact absurd (unit_lt_of_block_lt hb ha hne.symm hk' hk h) (lt_asymm hlt)

/-- Does the second id go on where the first one ends, with a character below the slash? -/
def Overtakes (b a : String) : Prop :=
  ∃ (c : Char) (rest : List Char), b.toList = a.toList ++ c :: rest ∧ c < '/'

theorem overtakes_iff : Overtakes b a ↔
    a.toList <+: b.toList ∧ (b.toList.drop a.toList.length).head?.any (· < '/') = true := by
  rw [Option.any_eq_true]
  constructor
  · rintro ⟨c, rest, hb, hc⟩
    rw [hb, List.drop_left]
    exact ⟨List.prefix_append _ _, c, rfl, decide_eq_true hc⟩
  · rintro ⟨⟨rest, hb⟩, c, hhead, hc⟩
    rw [← hb, List.drop_left] at hhead
    obtain ⟨rest, rfl⟩ := List.head?_eq_some_iff.mp hhead
    exact ⟨c, rest, hb.symm, of_decide_eq_true hc⟩

instance (b a : String) : Decidable (Overtakes b a) :=
  decidable_of_iff' _ overtakes_iff

theorem Overtakes.lt (h : Overtakes b a) : a < b := by
  obtain ⟨c, rest, hb, -⟩ := h
  show a.toList < b.toList
  rw [hb, ← List.append_nil a.toList, List.append_assoc]
  exact List.append_left_lt List.Lex.nil

theorem not_overtakes_of_not_begins (h : ¬a.toList <+: b.toList) : ¬Overtakes b a := by
  rintro ⟨c, rest, hb, -⟩
  exact h ⟨c :: rest, hb.symm⟩

/-- Blocks are in the order of the ids, unless a slash is overtaken. -/
theorem block_lt_iff (ha : IsRecord a) (hb : IsRecord b) (hlt : a < b) :
    block a bareA < block b bareB ↔ ¬(bareA = false ∧ Overtakes b a) := by
  by_cases hp : a.toList <+: b.toList
  · obtain ⟨suffix, hsuffix⟩ := hp
    obtain ⟨c, rest, rfl⟩ : ∃ c rest, suffix = c :: rest := by
      refine List.exists_cons_of_ne_nil fun hnil => ?_
      rw [hnil, List.append_nil] at hsuffix
      exact (ne_of_lt hlt) (String.toList_inj.mp hsuffix)
    have hslash : c ≠ '/' := by
      rintro rfl
      have hcount := congrArg (List.count '/') hsuffix
      rw [List.count_append, List.count_cons_self, ha.count_slash, hb.count_slash] at hcount
      omega
    have hblock : block b bareB = a.toList ++ c :: (rest ++ if bareB then [] else ['/']) := by
      rw [block, ← hsuffix, List.append_assoc, List.cons_append]
    rw [hblock, block]
    cases bareA with
    | true =>
      rw [if_pos rfl]
      refine ⟨fun _ h => Bool.noConfusion h.1, fun _ => ?_⟩
      exact List.append_left_lt List.Lex.nil
    | false =>
      rw [if_neg Bool.false_ne_true]
      rcases lt_trichotomy c '/' with hc | hc | hc
      · have hafter : a.toList ++ c :: (rest ++ if bareB then [] else ['/']) < a.toList ++ ['/'] :=
          List.append_left_lt (List.Lex.rel hc)
        refine ⟨fun h => absurd h (lt_asymm hafter), fun h => absurd ⟨rfl, c, rest, ?_, hc⟩ h⟩
        exact hsuffix.symm
      · exact absurd hc hslash
      · refine ⟨?_, fun _ => List.append_left_lt (List.Lex.rel hc)⟩
        rintro - ⟨-, c', rest', hb', hc'⟩
        rw [← hsuffix] at hb'
        obtain ⟨rfl, -⟩ := List.cons.inj (List.append_cancel_left hb')
        exact lt_asymm hc hc'
  · refine ⟨fun _ h => not_overtakes_of_not_begins hp h.2, fun _ => ?_⟩
    exact (Text.partsBelow_of_lt hlt hp).append_lt_append _ _

end EdgeCatalog.Id
