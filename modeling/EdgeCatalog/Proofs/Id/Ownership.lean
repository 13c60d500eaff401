import Mathlib
import EdgeCatalog.Proofs.Id.Grammar

/-! Who may own a resource. The checks let through sets of ids: those of records, and for every
owner those of its resources. The sets of different owners never meet, not even when the id of one
owner goes on as that of the other, and none of them meets the ids of records. -/
namespace EdgeCatalog.Id

/-- The ids that pass as ids of records. -/
def records : Set String :=
  {id | checkRecord id = .ok ()}

/-- The ids that pass as ids of resources of an owner. -/
def resourcesOf (owner : String) : Set String :=
  {id | checkResource id owner = .ok ()}

variable {owner id : String}

theorem mem_records_iff : id ∈ records ↔ IsRecord id :=
  checkRecord_eq_ok_iff

theorem mem_resourcesOf_iff (ho : owner ∈ records) :
    id ∈ resourcesOf owner ↔ IsResource owner id :=
  checkResource_eq_ok_iff (mem_records_iff.mp ho)

theorem hasSegments_of_mem_resourcesOf (h : id ∈ resourcesOf owner) : hasSegments 3 id = true := by
  have hok : checkResource id owner = .ok () := h
  rw [checkResource] at hok
  split at hok
  · rename_i hpass
    exact (Bool.and_eq_true_iff.mp hpass).1
  · cases hok

/-- Whoever the owner is, the id of a resource has a part more than that of a record. -/
theorem disjoint_records_resourcesOf (owner : String) : Disjoint records (resourcesOf owner) := by
  refine Set.disjoint_left.mpr fun id hrecord hresource => ?_
  obtain ⟨other, hother, hname⟩ :=
    hasSegments_three_iff.mp (hasSegments_of_mem_resourcesOf hresource)
  exact hname.not_isRecord hother (mem_records_iff.mp hrecord)

theorem owner_eq_of_mem {owner' : String} (ho : owner ∈ records) (ho' : owner' ∈ records)
    (h : id ∈ resourcesOf owner) (h' : id ∈ resourcesOf owner') : owner = owner' :=
  ((mem_resourcesOf_iff ho).mp h).owner_unique ((mem_resourcesOf_iff ho').mp h')

theorem pairwiseDisjoint_resourcesOf : records.PairwiseDisjoint resourcesOf := by
  intro owner ho owner' ho' hne
  refine Set.disjoint_left.mpr fun id h h' => hne ?_
  exact owner_eq_of_mem ho ho' h h'

/-- The ids of records are two names around a slash, and those of the resources of a record its own
id, a slash and a name. No id is a resource of two records, none is both a record and a resource,
and what different records may own has nothing in common. -/
theorem ids_owned_once :
    (∀ id, id ∈ records ↔
      ∃ space name, IsName space ∧ IsName name ∧ id = space ++ "/" ++ name) ∧
    (∀ owner ∈ records, ∀ id, id ∈ resourcesOf owner ↔
      ∃ name, IsName name ∧ id = owner ++ "/" ++ name) ∧
    (∀ id, {owner ∈ records | id ∈ resourcesOf owner}.Subsingleton) ∧
    (∀ owner, Disjoint records (resourcesOf owner)) ∧
    records.PairwiseDisjoint resourcesOf := by
  refine ⟨fun id => mem_records_iff, fun owner ho id => mem_resourcesOf_iff ho, ?_,
    disjoint_records_resourcesOf, pairwiseDisjoint_resourcesOf⟩
  rintro id owner ⟨ho, h⟩ owner' ⟨ho', h'⟩
  exact owner_eq_of_mem ho ho' h h'

/-- The id of one device goes on as that of another, and still they may not own the same. -/
theorem ids_owned_once_longer :
    "abc/dev1" ∈ records ∧ "abc/dev10" ∈ records ∧
    "abc/dev10/x" ∈ resourcesOf "abc/dev10" ∧ "abc/dev10/x" ∉ resourcesOf "abc/dev1" ∧
    Disjoint (resourcesOf "abc/dev1") (resourcesOf "abc/dev10") := by
  obtain ⟨hrecord, hresource, -, -, hdisjoint⟩ := ids_owned_once
  have h1 : "abc/dev1" ∈ records :=
    (hrecord _).mpr ⟨"abc", "dev1", by decide, by decide, by decide⟩
  have h10 : "abc/dev10" ∈ records :=
    (hrecord _).mpr ⟨"abc", "dev10", by decide, by decide, by decide⟩
  have hx : "abc/dev10/x" ∈ resourcesOf "abc/dev10" :=
    (hresource _ h10 _).mpr ⟨"x", by decide, by decide⟩
  have hapart := hdisjoint h1 h10 (by decide)
  exact ⟨h1, h10, hx, fun h => Set.disjoint_left.mp hapart h hx, hapart⟩

end EdgeCatalog.Id
