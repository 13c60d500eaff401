import Mathlib
import EdgeCatalog.Proofs.Device.Determined

/-! Device stores whose tables are gone through in any order. The keys for the indexes, and the
devices that a sweep takes out, come in whatever order a table enumerates its bindings in, and
another one each time. The order leaves no trace: the indexes are sorted, and taking out one device
does not touch another, so the stores that arise are the reachable ones. -/
namespace EdgeCatalog

namespace DeviceTables

variable {t t' : DeviceTables} {now : Instant} {id : String} {d stored : Device}

/-- Both indexes are derived from the rows, which are enumerated in any order. -/
inductive Reindexed (t : DeviceTables) : DeviceTables → Prop
  | intro (keys units : List String) (hkeys : keys.Perm t.devices.keys)
      (hunits : units.Perm (t.resources.keys ++ t.bareIds)) :
      Reindexed t { t with index := t.index.rebuild keys, units := t.units.rebuild units }

theorem reindexed_reindex (t : DeviceTables) : t.Reindexed t.reindex :=
  .intro _ _ (.refl _) (.refl _)

theorem Reindexed.eq_reindex (h : t.Reindexed t') : t' = t.reindex := by
  obtain ⟨keys, units, hkeys, hunits⟩ := h
  simp only [reindex, Index.rebuild, sortKeys_congr hkeys, sortKeys_congr hunits]

/-- It makes no difference in which order devices are taken out. -/
theorem RowsAgree.reindex_removeAll (h : t.RowsAgree) {ids ids' : List String}
    (hperm : ids.Perm ids') :
    (DeviceStore.removeAll t ids).1.reindex = (DeviceStore.removeAll t ids').1.reindex := by
  obtain ⟨hrows, hcontents⟩ := h.removeAll ids
  obtain ⟨hrows', hcontents'⟩ := h.removeAll ids'
  refine hrows.reindex_congr hrows' ?_
  rw [hcontents, hcontents', Table.foldl_erase_perm hperm]

/-- What an update stores takes the place of a device under the same id. -/
theorem amended_ok (h : t.amended now id d = .ok stored) :
    stored.id = id ∧ ∃ old rest, t.remove id = some (old, rest) := by
  rw [amended] at h
  split at h
  · cases h
  · split at h
    · cases h
    · rename_i row hrow
      split at h
      · cases h
      · obtain rfl := Except.ok.inj h
        refine ⟨rfl, ?_⟩
        rw [remove, hrow]
        exact ⟨_, _, rfl⟩

end DeviceTables

namespace DeviceStore

variable {s s' : DeviceStore} {m : Table Device} {c : DeviceCall}

/-- A store that a call may leave when every table is gone through in an order of its own. -/
inductive Leaves (s : DeviceStore) : DeviceCall → DeviceStore → Prop
  | add (now : Instant) (d : Device) {stored tables}
      (hadmitted : s.tables.admitted now d = .ok stored)
      (ht : (s.tables.insert stored).Reindexed tables) :
      Leaves s (.record (.add now d)) { s with tables, metrics := s.metrics.recordAdd }
  | update (now : Instant) (id : String) (d : Device) {stored old rest tables}
      (hamended : s.tables.amended now id d = .ok stored)
      (hremove : s.tables.remove id = some (old, rest))
      (ht : (rest.insert stored).Reindexed tables) :
      Leaves s (.record (.update now id d)) { s with tables, metrics := s.metrics.recordUpdate }
  | delete (id : String) {old rest tables} (hremove : s.tables.remove id = some (old, rest))
      (ht : rest.Reindexed tables) :
      Leaves s (.record (.delete id)) { s with tables, metrics := s.metrics.recordDelete }
  | cleanExpired (now : Instant) {ids tables} (hids : ids.Perm (s.expiredIds now))
      (hsome : ids ≠ [])
      (ht : (removeAll s.tables ids).1.Reindexed tables) :
      Leaves s (.record (.cleanExpired now))
        { s with tables, metrics := s.metrics.recordExpired (UInt64.ofNat ids.length) }
  /-- A call that finds nothing to change leaves the indexes as they are. -/
  | idle {c : DeviceCall} (h : (s.call c).tables = s.tables) : Leaves s c (s.call c)

/-- A call leaves one store only. -/
theorem eq_call_of_leaves (h : s.tables.Stands m) (hleaves : s.Leaves c s') : s' = s.call c := by
  cases hleaves with
  | add now d hadmitted ht =>
    show _ = (s.add now d).store
    rw [add_eq, hadmitted, ht.eq_reindex]
  | update now id d hamended hremove ht =>
    obtain ⟨hid, -⟩ := DeviceTables.amended_ok hamended
    show _ = (s.update now id d).store
    rw [update_eq, hamended, ht.eq_reindex]
    dsimp only [replaced]
    rw [hid, hremove]
  | delete id hremove ht =>
    show _ = (s.delete id).store
    rw [delete, hremove, ht.eq_reindex]
  | cleanExpired now hids hsome ht =>
    have hempty : ¬(s.expiredIds now).isEmpty = true := by
      rw [List.isEmpty_iff]
      exact fun hnone => hsome (List.perm_nil.mp (hnone ▸ hids))
    show _ = (s.cleanExpired now).store
    -- the devices go in another order, but they are the same and as many
    rw [cleanExpired, if_neg hempty, ht.eq_reindex, h.rows.reindex_removeAll hids, hids.length_eq]
  | idle _ => rfl

/-- Going through the tables in the order of their keys is one way to go through them. -/
theorem leaves_call (s : DeviceStore) (c : DeviceCall) : s.Leaves c (s.call c) := by
  cases c with
  | record operation =>
    cases operation with
    | add now d =>
      -- as with every write: if it is refused it changes nothing, else it indexes what it leaves
      cases hadmitted : s.tables.admitted now d with
      | error e =>
        refine .idle ?_
        show (s.add now d).store.tables = s.tables
        rw [add_eq, hadmitted]
        rfl
      | ok stored =>
        show s.Leaves _ (s.add now d).store
        rw [add_eq, hadmitted]
        exact .add now d hadmitted (DeviceTables.reindexed_reindex _)
    | update now id d =>
      cases hamended : s.tables.amended now id d with
      | error e =>
        refine .idle ?_
        show (s.update now id d).store.tables = s.tables
        rw [update_eq, hamended]
        dsimp only [refuse]
        split <;> rfl
      | ok stored =>
        obtain ⟨hid, old, rest, hremove⟩ := DeviceTables.amended_ok hamended
        show s.Leaves _ (s.update now id d).store
        rw [update_eq, hamended]
        dsimp only [replaced]
        rw [hid, hremove]
        exact .update now id d hamended hremove (DeviceTables.reindexed_reindex _)
    | delete id =>
      cases hremove : s.tables.remove id with
      | none =>
        refine .idle ?_
        show (s.delete id).store.tables = s.tables
        rw [delete, hremove]
        rfl
      | some removed =>
        show s.Leaves _ (s.delete id).store
        rw [delete, hremove]
        exact .delete id hremove (DeviceTables.reindexed_reindex _)
    | cleanExpired now =>
      by_cases hempty : (s.expiredIds now).isEmpty = true
      · refine .idle ?_
        show (s.cleanExpired now).store.tables = s.tables
        rw [cleanExpired, if_pos hempty]
      · show s.Leaves _ (s.cleanExpired now).store
        rw [cleanExpired, if_neg hempty]
        exact .cleanExpired now (.refl _) (fun hnone => hempty (List.isEmpty_iff.mpr hnone))
          (DeviceTables.reindexed_reindex _)
    | get id => exact .idle (tables_get s id)
    | getMany page perPage => exact .idle (tables_getMany s page perPage)
    | filterOne path relation value => exact .idle (tables_filterOne s path relation value)
    | filterMany path relation value page perPage =>
      exact .idle (tables_filterMany s path relation value page perPage)
  | resource command => exact .idle (tables_resource s command)

/-- A store that calls leave, starting from an empty one, when every table is gone through in an
order of its own. -/
inductive Arises : DeviceStore → Prop
  | empty (maxPerPage : UInt64) : Arises { maxPerPage }
  | call {s s' : DeviceStore} {c : DeviceCall} (hs : Arises s) (hleaves : s.Leaves c s') :
    Arises s'

/-- The order in which tables are gone through has no bearing on what stores there are. -/
theorem arises_iff : s.Arises ↔ s.Reachable := by
  constructor
  · intro h
    induction h with
    | empty maxPerPage => exact ⟨maxPerPage, [], rfl⟩
    | @call s s' c _ hleaves hreach =>
      rw [eq_call_of_leaves hreach.stands hleaves]
      exact hreach.call c
  · rintro ⟨maxPerPage, calls, rfl⟩
    induction calls using List.reverseRecOn with
    | nil => exact .empty maxPerPage
    | append_singleton before c harises =>
      rw [run, List.foldl_append]
      exact harises.call (leaves_call _ c)

end DeviceStore

end EdgeCatalog
