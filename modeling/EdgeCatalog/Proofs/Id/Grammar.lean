import Mathlib
import EdgeCatalog.Id

/-! The grammar of ids. The checks cut an id at every slash; what they accept is said here without
cutting: a record id is two names around a slash, and a resource id is the id of its owner, a slash
and a name. A resource id has one owner only (`IsResource.owner_unique`), and no id is of both
kinds. -/
namespace EdgeCatalog

namespace Text

/-! ## Cutting at a separator -/

theorem notMem_of_mem_splitChars {sep : Char} {cs part : List Char}
    (h : part ∈ splitChars sep cs) : sep ∉ part := by
  induction cs generalizing part with
  | nil =>
    have hp : part = [] := by simpa [splitChars] using h
    simp [hp]
  | cons c rest ih =>
    simp only [splitChars] at h
    by_cases hc : c = sep
    · rw [if_pos hc] at h
      rcases List.mem_cons.mp h with rfl | h
      · simp
      · exact ih h
    · rw [if_neg hc] at h
      cases hs : splitChars sep rest with
      | nil => exact absurd hs (splitChars_ne_nil sep rest)
      | cons first others =>
        rw [hs] at h
        rcases List.mem_cons.mp h with rfl | h
        · have hfirst : sep ∉ first := ih (by rw [hs]; exact List.mem_cons_self)
          simp [Ne.symm hc, hfirst]
        · exact ih (by rw [hs]; exact List.mem_cons_of_mem _ h)

theorem splitChars_of_notMem {sep : Char} {cs : List Char} (h : sep ∉ cs) :
    splitChars sep cs = [cs] := by
  induction cs with
  | nil => rfl
  | cons c rest ih =>
    have hc : c ≠ sep := fun hc => h (by rw [hc]; exact List.mem_cons_self)
    have hrest : sep ∉ rest := fun hr => h (List.mem_cons_of_mem _ hr)
    rw [splitChars, if_neg hc, ih hrest]

/-- The first part ends at the first separator. -/
theorem splitChars_append_cons {sep : Char} {cs : List Char} (h : sep ∉ cs) (rest : List Char) :
    splitChars sep (cs ++ sep :: rest) = cs :: splitChars sep rest := by
  induction cs with
  | nil => simp [splitChars]
  | cons c others ih =>
    have hc : c ≠ sep := fun hc => h (by rw [hc]; exact List.mem_cons_self)
    have hothers : sep ∉ others := fun ho => h (List.mem_cons_of_mem _ ho)
    rw [List.cons_append, splitChars, if_neg hc, ih hothers]

end Text

namespace Id

/-! ## Names, record ids and resource ids -/

/-- A part of an id: not empty, and without a slash. -/
def IsName (s : String) : Prop :=
  s ≠ "" ∧ '/' ∉ s.toList

/-- A namespace and a name. -/
def IsRecord (id : String) : Prop :=
  ∃ space name : String, IsName space ∧ IsName name ∧ id = space ++ "/" ++ name

/-- The id of the owner and a name. -/
def IsResource (owner id : String) : Prop :=
  ∃ name : String, IsName name ∧ id = owner ++ "/" ++ name

theorem toList_slash (a b : String) : (a ++ "/" ++ b).toList = a.toList ++ '/' :: b.toList := by
  simp

theorem IsName.count_slash {s : String} (h : IsName s) : s.toList.count '/' = 0 :=
  List.count_eq_zero.mpr h.2

theorem IsRecord.count_slash {id : String} (h : IsRecord id) : id.toList.count '/' = 1 := by
  obtain ⟨space, name, hspace, hname, rfl⟩ := h
  rw [toList_slash, List.count_append, List.count_cons_self, hspace.count_slash, hname.count_slash]

theorem IsRecord.ne_empty {id : String} (h : IsRecord id) : id ≠ "" := by
  rintro rfl
  exact absurd h.count_slash (by decide)

theorem IsResource.count_slash {owner id : String} (h : IsResource owner id) :
    id.toList.count '/' = owner.toList.count '/' + 1 := by
  obtain ⟨name, hname, rfl⟩ := h
  rw [toList_slash, List.count_append, List.count_cons_self, hname.count_slash]

/-- What stands before and after the last slash of a text is determined by the text. -/
theorem last_slash_unique {a b x y : List Char} (hx : '/' ∉ x) (hy : '/' ∉ y)
    (h : a ++ '/' :: x = b ++ '/' :: y) : a = b ∧ x = y := by
  have hr := congrArg List.reverse h
  simp only [List.reverse_append, List.reverse_cons, List.append_assoc, List.cons_append,
    List.nil_append] at hr
  -- read backwards, it is the first slash at which both sides are cut
  have hcut := congrArg (Text.splitChars '/') hr
  rw [Text.splitChars_append_cons (by simpa using hx),
    Text.splitChars_append_cons (by simpa using hy)] at hcut
  obtain ⟨hxy, hab⟩ := List.cons.inj hcut
  refine ⟨List.reverse_inj.mp ?_, List.reverse_inj.mp hxy⟩
  rw [← Text.joinChars_splitChars '/' a.reverse, hab, Text.joinChars_splitChars]

/-- A text is the id of a resource of one owner only. -/
theorem IsResource.owner_unique {a b id : String} (ha : IsResource a id) (hb : IsResource b id) :
    a = b := by
  obtain ⟨x, hx, rfl⟩ := ha
  obtain ⟨y, hy, he⟩ := hb
  have hl := congrArg String.toList he
  rw [toList_slash, toList_slash] at hl
  exact String.toList_inj.mp (last_slash_unique hx.2 hy.2 hl).1

/-- No resource of a record is itself a record. -/
theorem IsResource.not_isRecord {owner id : String} (ho : IsRecord owner)
    (h : IsResource owner id) : ¬IsRecord id := by
  intro hid
  have h1 := h.count_slash
  rw [hid.count_slash, ho.count_slash] at h1
  omega

/-! ## The checks accept exactly the grammar -/

theorem isName_iff {s : String} : IsName s ↔ s.toList ≠ [] ∧ '/' ∉ s.toList := by
  rw [IsName, Ne, Ne, String.toList_eq_nil_iff]

/-- An id passes when cutting it gives parts that are not empty, as many as are asked for. -/
theorem hasSegments_iff {count : Nat} {id : String} :
    hasSegments count id = true ↔
      (Text.splitChars '/' id.toList).length = count ∧
        ∀ part ∈ Text.splitChars '/' id.toList, part ≠ [] := by
  have hparts : (Text.segments '/' id).all (· ≠ "") = true ↔
      ∀ part ∈ Text.splitChars '/' id.toList, part ≠ [] := by
    rw [List.all_eq_true]
    constructor
    · intro h part hp he
      have := h _ (List.mem_map_of_mem hp)
      simp [he] at this
    · intro h s hs
      obtain ⟨part, hp, rfl⟩ := List.mem_map.mp hs
      have hne : String.ofList part ≠ "" := by
        rw [Ne, ← String.toList_eq_nil_iff, String.toList_ofList]
        exact h part hp
      simpa using hne
  rw [hasSegments, Bool.and_eq_true, hparts, beq_iff_eq, Text.segments, List.length_map]
  exact and_comm

/-- The parts of an id that passes are names, and the id is made of them. -/
theorem names_of_hasSegments {count : Nat} {id : String} (h : hasSegments count id = true) :
    ∃ parts : List (List Char), parts.length = count ∧
      (∀ part ∈ parts, IsName (String.ofList part)) ∧ id.toList = Text.joinChars '/' parts := by
  obtain ⟨hlen, hne⟩ := hasSegments_iff.mp h
  refine ⟨Text.splitChars '/' id.toList, hlen, fun part hp => ?_,
    (Text.joinChars_splitChars '/' id.toList).symm⟩
  rw [isName_iff, String.toList_ofList]
  exact ⟨hne part hp, Text.notMem_of_mem_splitChars hp⟩

theorem hasSegments_two_iff {id : String} : hasSegments 2 id = true ↔ IsRecord id := by
  constructor
  · intro h
    obtain ⟨parts, hlen, hnames, hid⟩ := names_of_hasSegments h
    obtain ⟨a, b, rfl⟩ := List.length_eq_two.mp hlen
    refine ⟨String.ofList a, String.ofList b, hnames a (by simp), hnames b (by simp), ?_⟩
    rw [← String.toList_inj, toList_slash, hid]
    simp [Text.joinChars]
  · rintro ⟨space, name, hspace, hname, rfl⟩
    rw [isName_iff] at hspace hname
    rw [hasSegments_iff, toList_slash, Text.splitChars_append_cons hspace.2,
      Text.splitChars_of_notMem hname.2]
    simp [hspace.1, hname.1]

theorem hasSegments_three_iff {id : String} :
    hasSegments 3 id = true ↔ ∃ owner, IsRecord owner ∧ IsResource owner id := by
  constructor
  · intro h
    obtain ⟨parts, hlen, hnames, hid⟩ := names_of_hasSegments h
    obtain ⟨a, b, c, rfl⟩ := List.length_eq_three.mp hlen
    refine ⟨String.ofList a ++ "/" ++ String.ofList b,
      ⟨_, _, hnames a (by simp), hnames b (by simp), rfl⟩, String.ofList c, hnames c (by simp), ?_⟩
    rw [← String.toList_inj, toList_slash, toList_slash, hid]
    simp [Text.joinChars]
  · rintro ⟨_, ⟨space, name, hspace, hname, rfl⟩, resource, hresource, rfl⟩
    rw [isName_iff] at hspace hname hresource
    rw [hasSegments_iff, toList_slash, toList_slash, List.append_assoc, List.cons_append,
      Text.splitChars_append_cons hspace.2, Text.splitChars_append_cons hname.2,
      Text.splitChars_of_notMem hresource.2]
    simp [hspace.1, hname.1, hresource.1]

theorem checkRecord_eq_ok_iff {id : String} : checkRecord id = .ok () ↔ IsRecord id := by
  rw [← hasSegments_two_iff, checkRecord]
  split <;> simp_all

theorem checkRecord_of_not {id : String} (h : ¬IsRecord id) :
    checkRecord id = .error (.invalid (.recordId id)) := by
  rw [checkRecord, if_neg (fun hs => h (hasSegments_two_iff.mp hs))]

theorem checkRecord_error {id : String} {e : Error} (h : checkRecord id = .error e) :
    e = .invalid (.recordId id) := by
  rw [checkRecord] at h
  split at h
  · cases h
  · exact (Except.error.inj h).symm

theorem checkResource_error {id owner : String} {e : Error} (h : checkResource id owner = .error e) :
    e = .invalid (.resourceId id owner) := by
  rw [checkResource] at h
  split at h
  · cases h
  · exact (Except.error.inj h).symm

theorem isUnder_iff {owner id : String} :
    isUnder owner id = true ↔ ∃ rest, id.toList = owner.toList ++ '/' :: rest := by
  rw [isUnder, List.isPrefixOf_iff_prefix]
  constructor
  · rintro ⟨rest, h⟩
    exact ⟨rest, by simpa using h.symm⟩
  · rintro ⟨rest, h⟩
    exact ⟨rest, by simp [h]⟩

/-- For the id of a record, the check of a resource accepts what goes on with a slash and a name. -/
theorem checkResource_eq_ok_iff {owner id : String} (ho : IsRecord owner) :
    checkResource id owner = .ok () ↔ IsResource owner id := by
  have haccept : (hasSegments 3 id && isUnder owner id) = true ↔ IsResource owner id := by
    rw [Bool.and_eq_true, hasSegments_three_iff, isUnder_iff]
    constructor
    · rintro ⟨⟨other, hother, name, hname, rfl⟩, rest, hrest⟩
      rw [toList_slash] at hrest
      -- the owner has one slash and the id has two, so the rest has none
      have hcount := congrArg (List.count '/') hrest
      rw [List.count_append, List.count_append, List.count_cons_self, List.count_cons_self,
        hother.count_slash, ho.count_slash, hname.count_slash] at hcount
      have hrest0 : '/' ∉ rest := List.count_eq_zero.mp (by omega)
      have hother_eq : other = owner :=
        String.toList_inj.mp (last_slash_unique hname.2 hrest0 hrest).1
      exact ⟨name, hname, by rw [hother_eq]⟩
    · intro h
      refine ⟨⟨owner, ho, h⟩, ?_⟩
      obtain ⟨name, -, rfl⟩ := h
      exact ⟨name.toList, toList_slash owner name⟩
  rw [← haccept, checkResource]
  split <;> simp_all

theorem checkResource_of_not {owner id : String} (ho : IsRecord owner) (h : ¬IsResource owner id) :
    checkResource id owner = .error (.invalid (.resourceId id owner)) := by
  have hne := fun hok => h ((checkResource_eq_ok_iff ho).mp hok)
  rw [checkResource] at hne ⊢
  split at hne
  · exact absurd rfl hne
  · rename_i hrefused
    rw [if_neg hrefused]

/-! ## The grammar can be evaluated -/

instance (s : String) : Decidable (IsName s) :=
  inferInstanceAs (Decidable (_ ∧ _))

instance (id : String) : Decidable (IsRecord id) :=
  decidable_of_iff _ hasSegments_two_iff

theorem isResource_iff {owner id : String} :
    IsResource owner id ↔ isUnder owner id = true ∧
      IsName (String.ofList (id.toList.drop (owner.toList.length + 1))) := by
  have hdrop (rest : List Char) :
      (owner.toList ++ '/' :: rest).drop (owner.toList.length + 1) = rest := by
    rw [← List.drop_drop, List.drop_left, List.drop_one, List.tail_cons]
  constructor
  · rintro ⟨name, hname, rfl⟩
    rw [toList_slash, hdrop, String.ofList_toList]
    exact ⟨isUnder_iff.mpr ⟨name.toList, toList_slash owner name⟩, hname⟩
  · rintro ⟨hunder, hname⟩
    obtain ⟨rest, hrest⟩ := isUnder_iff.mp hunder
    rw [hrest, hdrop] at hname
    refine ⟨String.ofList rest, hname, ?_⟩
    rw [← String.toList_inj, toList_slash, hrest, String.toList_ofList]

instance (owner id : String) : Decidable (IsResource owner id) :=
  decidable_of_iff _ isResource_iff.symm

end Id

end EdgeCatalog
