import Mathlib
import EdgeCatalog.Proofs.Service.Determined

/-! Service stores whose rows are gone through in any order. The order leaves no trace: the index is
sorted, and the registrations that a sweep takes out do not depend on each other, so the stores that
arise are the reachable ones. -/
namespace EdgeCatalog

/-- The index is derived from the rows, which are enumerated in any order. -/
inductive ServiceTables.Reindexed (t : ServiceTables) : ServiceTables → Prop
  | intro (keys : List String) (hkeys : keys.Perm t.data.keys) :
      Reindexed t { t with index := t.index.rebuild keys }

theorem ServiceTables.reindexed_reindex (t : ServiceTables) : t.Reindexed t.reindex :=
  .intro _ (.refl _)

theorem ServiceTables.Reindexed.eq_reindex {t t' : ServiceTables} (h : t.Reindexed t') :
    t' = t.reindex := by
  obtain ⟨keys, hkeys⟩ := h
  simp only [reindex, Index.rebuild, sortKeys_congr hkeys]

namespace ServiceStore

variable {s s' : ServiceStore} {c : Operation Service}

/-- A store that a call may leave when the rows are gone through in any order. -/
inductive Leaves (s : ServiceStore) : Operation Service → ServiceStore → Prop
  | add (now : Instant) (service : Service) {stored tables}
      (hadmitted : s.tables.admitted now service = .ok stored)
      (ht : { s.tables with data := s.tables.data.insert stored.id stored }.Reindexed tables) :
      Leaves s (.add now service) { s with tables, metrics := s.metrics.recordAdd }
  | update (now : Instant) (id : String) (service : Service) {stored tables}
      (hamended : s.tables.amended now id service = .ok stored)
      (ht : { s.tables with data := s.tables.data.insert id stored }.Reindexed tables) :
      Leaves s (.update now id service) { s with tables, metrics := s.metrics.recordUpdate }
  | delete (id : String) {old tables} (hfound : s.tables.data.get? id = some old)
      (ht : { s.tables with data := s.tables.data.erase id }.Reindexed tables) :
      Leaves s (.delete id) { s with tables, metrics := s.metrics.recordDelete }
  | cleanExpired (now : Instant) {ids tables} (hids : ids.Perm (s.expiredIds now))
      (hsome : ids ≠ [])
      (ht : { s.tables with data := ids.foldl Table.erase s.tables.data }.Reindexed tables) :
      Leaves s (.cleanExpired now)
        { s with tables, metrics := s.metrics.recordExpired (UInt64.ofNat ids.length) }
  /-- A call that finds nothing to change leaves the index as it is. -/
  | idle {c : Operation Service} (h : (c.apply s).tables = s.tables) : Leaves s c (c.apply s)

/-- A call leaves one store only. -/
theorem eq_apply_of_leaves (hleaves : s.Leaves c s') : s' = c.apply s := by
  cases hleaves with
  | add now service hadmitted ht =>
    show _ = (s.add now service).store
    rw [add_eq, hadmitted, ht.eq_reindex]
  | update now id service hamended ht =>
    show _ = (s.update now id service).store
    rw [update_eq, hamended, ht.eq_reindex]
  | delete id hfound ht =>
    show _ = (s.delete id).store
    rw [delete, hfound, ht.eq_reindex]
  | cleanExpired now hids hsome ht =>
    have hempty : ¬(s.expiredIds now).isEmpty = true := by
      rw [List.isEmpty_iff]
      exact fun hnone => hsome (List.perm_nil.mp (hnone ▸ hids))
    show _ = (s.cleanExpired now).store
    rw [cleanExpired, if_neg hempty, ht.eq_reindex, Table.foldl_erase_perm hids, hids.length_eq]
  | idle _ => rfl

/-- Going through the rows in the order of their keys is one way to go through them. -/
theorem leaves_apply (s : ServiceStore) (c : Operation Service) : s.Leaves c (c.apply s) := by
  cases c with
  | add now service =>
    -- as with every write: if it is refused it changes nothing, else it indexes what it leaves
    cases hadmitted : s.tables.admitted now service with
    | error e =>
      refine .idle ?_
      show (s.add now service).store.tables = s.tables
      rw [add_eq, hadmitted]
      rfl
    | ok stored =>
      show s.Leaves _ (s.add now service).store
      rw [add_eq, hadmitted]
      exact .add now service hadmitted (ServiceTables.reindexed_reindex _)
  | update now id service =>
    cases hamended : s.tables.amended now id service with
    | error e =>
      refine .idle ?_
      show (s.update now id service).store.tables = s.tables
      rw [update_eq, hamended]
      dsimp only [refuse]
      split <;> rfl
    | ok stored =>
      show s.Leaves _ (s.update now id service).store
      rw [update_eq, hamended]
      exact .update now id service hamended (ServiceTables.reindexed_reindex _)
  | delete id =>
    cases hfound : s.tables.data.get? id with
    | none =>
      refine .idle ?_
      show (s.delete id).store.tables = s.tables
      rw [delete, hfound]
      rfl
    | some old =>
      show s.Leaves _ (s.delete id).store
      rw [delete, hfound]
      exact .delete id hfound (ServiceTables.reindexed_reindex _)
  | cleanExpired now =>
    by_cases hempty : (s.expiredIds now).isEmpty = true
    · refine .idle ?_
      show (s.cleanExpired now).store.tables = s.tables
      rw [cleanExpired, if_pos hempty]
    · show s.Leaves _ (s.cleanExpired now).store
      rw [cleanExpired, if_neg hempty]
      exact .cleanExpired now (.refl _) (fun hnone => hempty (List.isEmpty_iff.mpr hnone))
        (ServiceTables.reindexed_reindex _)
  | get id => exact .idle rfl
  | getMany page perPage => exact .idle (tables_getMany s page perPage)
  | filterOne path relation value => exact .idle (tables_filterOne s path relation value)
  | filterMany path relation value page perPage =>
    exact .idle (tables_filterMany s path relation value page perPage)

/-- A store that calls leave, starting from an empty one, when the rows are gone through in another
order each time. -/
inductive Arises : ServiceStore → Prop
  | empty (maxPerPage : UInt64) : Arises { maxPerPage }
  | call {s s' : ServiceStore} {c : Operation Service} (hs : Arises s) (hleaves : s.Leaves c s') :
    Arises s'

/-- The order in which the rows are gone through has no bearing on what stores there are. -/
theorem arises_iff : s.Arises ↔ s.Reachable := by
  constructor
  · intro h
    induction h with
    | empty maxPerPage => exact ⟨maxPerPage, [], rfl⟩
    | @call s s' c _ hleaves hreach =>
      rw [eq_apply_of_leaves hleaves]
      exact hreach.call c
  · rintro ⟨maxPerPage, calls, rfl⟩
    induction calls using List.reverseRecOn with
    | nil => exact .empty maxPerPage
    | append_singleton before c harises =>
      rw [run, List.foldl_append]
      exact harises.call (leaves_apply _ c)

end ServiceStore

end EdgeCatalog
