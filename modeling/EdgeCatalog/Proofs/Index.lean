import Mathlib
import EdgeCatalog.Index
import EdgeCatalog.Proofs.Text.Order

/-! Sorting keys. An index holds the keys it was given, as often as they were given, in ascending
order, and it depends on nothing else. -/
namespace EdgeCatalog

theorem insertKey_perm (key : String) (keys : List String) :
    (insertKey key keys).Perm (key :: keys) := by
  induction keys with
  | nil => exact List.Perm.refl _
  | cons k rest ih =>
    rw [insertKey]
    split
    · exact (ih.cons k).trans (List.Perm.swap key k rest)
    · exact List.Perm.refl _

theorem sortKeys_perm (keys : List String) : (sortKeys keys).Perm keys := by
  induction keys with
  | nil => exact List.Perm.refl _
  | cons k rest ih => exact (insertKey_perm k (sortKeys rest)).trans (ih.cons k)

theorem mem_sortKeys {key : String} {keys : List String} : key ∈ sortKeys keys ↔ key ∈ keys :=
  (sortKeys_perm keys).mem_iff

theorem nodup_sortKeys {keys : List String} : (sortKeys keys).Nodup ↔ keys.Nodup :=
  (sortKeys_perm keys).nodup_iff

theorem length_sortKeys (keys : List String) : (sortKeys keys).length = keys.length :=
  (sortKeys_perm keys).length_eq

theorem pairwise_insertKey {key : String} {keys : List String} (h : keys.Pairwise (· ≤ ·)) :
    (insertKey key keys).Pairwise (· ≤ ·) := by
  induction keys with
  | nil => exact List.pairwise_singleton _ _
  | cons k rest ih =>
    obtain ⟨hk, hrest⟩ := List.pairwise_cons.mp h
    rw [insertKey]
    split
    · rename_i hlt
      refine List.pairwise_cons.mpr ⟨fun other ho => ?_, ih hrest⟩
      rcases List.mem_cons.mp ((insertKey_perm key rest).mem_iff.mp ho) with rfl | ho
      · exact le_of_lt hlt
      · exact hk other ho
    · rename_i hle
      have hkey : key ≤ k := not_lt.mp hle
      refine List.pairwise_cons.mpr ⟨fun other ho => ?_, h⟩
      rcases List.mem_cons.mp ho with rfl | ho
      · exact hkey
      · exact le_trans hkey (hk other ho)

theorem pairwise_sortKeys (keys : List String) : (sortKeys keys).Pairwise (· ≤ ·) := by
  induction keys with
  | nil => exact List.Pairwise.nil
  | cons k rest ih => exact pairwise_insertKey ih

/-- Without repetitions the order is strict. -/
theorem pairwise_lt_sortKeys {keys : List String} (h : keys.Nodup) :
    (sortKeys keys).Pairwise (· < ·) := by
  have hne : (sortKeys keys).Pairwise (· ≠ ·) := nodup_sortKeys.mpr h
  exact ((pairwise_sortKeys keys).and hne).imp fun ⟨hle, hne⟩ => lt_of_le_of_ne hle hne

/-- There is one ascending arrangement of given keys. -/
theorem eq_sortKeys {sorted keys : List String} (h : sorted.Pairwise (· ≤ ·))
    (hp : sorted.Perm keys) : sorted = sortKeys keys := by
  refine List.Perm.eq_of_pairwise (fun a b _ _ hab hba => le_antisymm hab hba) h
    (pairwise_sortKeys keys) ?_
  exact hp.trans (sortKeys_perm keys).symm

/-- In whatever order the keys are given, they are sorted alike. -/
theorem sortKeys_congr {keys keys' : List String} (h : keys.Perm keys') :
    sortKeys keys = sortKeys keys' :=
  eq_sortKeys (pairwise_sortKeys keys) ((sortKeys_perm keys).trans h)

/-! ## Rebuilding -/

namespace Index

/-- The index holds the keys, each as often as it is given, in the order of their UTF-8 bytes. -/
structure Arranges (index : Index) (keys : List String) : Prop where
  ascending : index.keys.Pairwise fun a b => Text.bytes a ≤ Text.bytes b
  perm : index.keys.Perm keys

theorem arranges_iff {index : Index} {keys : List String} :
    index.Arranges keys ↔ index.keys = sortKeys keys := by
  constructor
  · rintro ⟨hascending, hperm⟩
    exact eq_sortKeys (hascending.imp Text.bytes_le_bytes_iff.mp) hperm
  · intro h
    constructor
    · rw [h]
      exact (pairwise_sortKeys keys).imp Text.bytes_le_bytes_iff.mpr
    · rw [h]
      exact sortKeys_perm keys

/-- An index that is rebuilt holds the given keys in order and nothing else. It is the only such
index, so that however keys are sorted and whatever was there before, the same keys in any order
give the same index, and only the same keys do. -/
theorem rebuild_determined (index : Index) (keys : List String) :
    (index.rebuild keys).Arranges keys ∧
    (∀ key, (index.rebuild keys).keys.count key = keys.count key) ∧
    (index.rebuild keys).size = keys.length ∧
    (∀ other : Index, other.Arranges keys → other = index.rebuild keys) ∧
    ∀ (other : Index) (keys' : List String),
      other.rebuild keys' = index.rebuild keys ↔ keys'.Perm keys := by
  have hperm : (index.rebuild keys).keys.Perm keys := sortKeys_perm keys
  refine ⟨arranges_iff.mpr rfl, hperm.count_eq, hperm.length_eq, fun other h => ?_,
    fun other keys' => ⟨fun h => ?_, fun h => ?_⟩⟩
  · obtain ⟨held⟩ := other
    obtain rfl : held = sortKeys keys := arranges_iff.mp h
    rfl
  · have hsorted : sortKeys keys' = sortKeys keys := congrArg Index.keys h
    exact (sortKeys_perm keys').symm.trans (hsorted ▸ sortKeys_perm keys)
  · exact congrArg Index.mk (sortKeys_congr h)

end Index

end EdgeCatalog
