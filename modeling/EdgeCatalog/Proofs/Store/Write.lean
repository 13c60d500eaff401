import Mathlib
import EdgeCatalog.Proofs.Store.Effect

/-! Writes and the ids that they are addressed to. What a write does is confined to its id, and
effects that are confined to different ids can be applied in either order. -/
namespace EdgeCatalog

/-- Results that are wrapped alike are alike. -/
theorem eq_of_map_eq {α β : Type} {f : α → β} (hf : f.Injective) {result result' : Except Error α}
    (h : result.map f = result'.map f) : result = result' := by
  cases result <;> cases result' <;> simp_all [Except.map, hf.eq_iff]

theorem Reply.record_injective {ε : Type} : (Reply.record : ε → Reply ε).Injective :=
  fun _ _ h => Reply.record.inj h

variable {σ ε : Type} [Perishable ε] {id a b : String} {m m' : Table ε}

/-- A write, and the id that it is addressed to: that of the record to be added, or the one that it
names. -/
inductive Operation.Writes : Operation ε → String → Prop
  | add (now : Instant) (entry : ε) : Writes (.add now entry) (Perishable.id entry)
  | update (now : Instant) (id : String) (entry : ε) : Writes (.update now id entry) id
  | delete (id : String) : Writes (.delete id) id

/-! ## Effects under one id -/

namespace Effect

/-- It changes nothing but what is found under the id. -/
def ConfinedTo (id : String) (e : Effect ε) : Prop :=
  ∀ (m : Table ε) (other : String), other ≠ id → (apply m e).get? other = m.get? other

theorem confinedTo_keep : ConfinedTo id (.keep : Effect ε) :=
  fun _ _ _ => rfl

theorem confinedTo_put (id : String) (entry : ε) : ConfinedTo id (.put id entry) :=
  fun m other hne => by rw [apply, Table.get?_insert, if_neg (Ne.symm hne)]

theorem confinedTo_take (id : String) : ConfinedTo id (.take id : Effect ε) :=
  fun m other hne => by rw [apply, Table.get?_erase, if_neg (Ne.symm hne)]

/-- What an effect leaves under an id depends on nothing but what was there. -/
theorem get?_apply_congr (e : Effect ε) (h : m.get? id = m'.get? id) :
    (apply m e).get? id = (apply m' e).get? id := by
  cases e with
  | keep => exact h
  | put other entry => rw [apply, apply, Table.get?_insert, Table.get?_insert, h]
  | take other => rw [apply, apply, Table.get?_erase, Table.get?_erase, h]
  | sweep now => rw [apply, apply, Table.get?_filter, Table.get?_filter, h]

/-- Effects that are confined to different ids commute. -/
theorem apply_comm {e e' : Effect ε} (h : ConfinedTo a e) (h' : ConfinedTo b e') (hne : a ≠ b)
    (m : Table ε) : apply (apply m e) e' = apply (apply m e') e := by
  refine Table.ext_get? fun key => ?_
  by_cases hkey : key = b
  · -- the first effect does not reach this id, so it makes no difference to the second
    subst hkey
    rw [get?_apply_congr e' (h m key (Ne.symm hne)), h (apply m e') key (Ne.symm hne)]
  · rw [h' (apply m e) key hkey, get?_apply_congr e (h' m key hkey)]

end Effect

/-! ## Effects of writes -/

namespace Operation

variable [RecordStore σ ε] {s s' : σ} {c : Operation ε}

theorem Writes.confined (h : c.Writes id) (s : σ) : (c.effect s).ConfinedTo id := by
  cases h with
  | add now entry =>
    rw [effect]
    split
    · exact Effect.confinedTo_put _ _
    · exact Effect.confinedTo_keep
  | update now _ entry =>
    rw [effect]
    split
    · exact Effect.confinedTo_put _ _
    · exact Effect.confinedTo_keep
  | delete =>
    rw [effect]
    split
    · exact Effect.confinedTo_take _
    · exact Effect.confinedTo_keep

/-- What a write does follows from what it answers. -/
theorem Writes.effect_congr (h : c.Writes id) (hanswer : c.answer s = c.answer s') :
    c.effect s = c.effect s' := by
  cases h with
  | add => rw [effect, effect, eq_of_map_eq Reply.record_injective hanswer]
  | update => rw [effect, effect, eq_of_map_eq Reply.record_injective hanswer]
  | delete => rw [effect, effect, eq_of_map_eq Reply.record_injective hanswer]

/-- A call that is neither addressed to the id nor a sweep leaves alone what is found there. -/
theorem get?_apply_effect (s : σ) (hwrites : ¬c.Writes id) (hsweep : ∀ now, c ≠ .cleanExpired now)
    (m : Table ε) : (Effect.apply m (c.effect s)).get? id = m.get? id := by
  cases c with
  | add now entry =>
    exact (Writes.add now entry).confined s m id fun hid => hwrites (hid ▸ .add now entry)
  | update now other entry =>
    exact (Writes.update now other entry).confined s m id fun hid => hwrites (hid ▸ .update ..)
  | delete other =>
    exact (Writes.delete other).confined s m id fun hid => hwrites (hid ▸ .delete other)
  | cleanExpired now => exact absurd rfl (hsweep now)
  | get other => rfl
  | getMany page perPage => rfl
  | filterOne path relation value => rfl
  | filterMany path relation value page perPage => rfl

/-- All that a call can do to the records. -/
theorem effect_cases (s : σ) (c : Operation ε) :
    c.effect s = .keep ∨
      (∃ id now entry r, c.Stores id now entry ∧ c.effect s = .put id r) ∨
      (∃ id, c = .delete id ∧ c.effect s = .take id) ∨
      ∃ now, c = .cleanExpired now ∧ c.effect s = .sweep now := by
  cases c with
  | add now entry =>
    rw [effect]
    split
    · exact .inr (.inl ⟨_, now, entry, _, .add now entry, rfl⟩)
    · exact .inl rfl
  | update now id entry =>
    rw [effect]
    split
    · exact .inr (.inl ⟨id, now, entry, _, .update now id entry, rfl⟩)
    · exact .inl rfl
  | delete id =>
    rw [effect]
    split
    · exact .inr (.inr (.inl ⟨id, rfl, rfl⟩))
    · exact .inl rfl
  | cleanExpired now => exact .inr (.inr (.inr ⟨now, rfl, rfl⟩))
  | get id => exact .inl rfl
  | getMany page perPage => exact .inl rfl
  | filterOne path relation value => exact .inl rfl
  | filterMany path relation value page perPage => exact .inl rfl

theorem Stores.writes {now : Instant} {entry : ε} (h : c.Stores id now entry) : c.Writes id := by
  cases h with
  | add => exact .add now entry
  | update => exact .update now id entry

/-- Only a call that stores an entry puts anything in. -/
theorem stores_of_effect {r : ε} (h : c.effect s = .put id r) :
    ∃ now entry, c.Stores id now entry := by
  rcases effect_cases s c with hkeep | ⟨_, now, entry, _, hstores, hput⟩ | ⟨_, -, htake⟩ | ⟨_, -, hsweep⟩
  · cases hkeep.symm.trans h
  · cases hput.symm.trans h
    exact ⟨now, entry, hstores⟩
  · cases htake.symm.trans h
  · cases hsweep.symm.trans h

/-- Nothing is put in or taken out under an id but by a write to it. -/
theorem writes_of_touches (h : (c.effect s).Touches id) : c.Writes id := by
  rcases effect_cases s c with hkeep | ⟨_, _, _, _, hstores, hput⟩ | ⟨_, rfl, htake⟩ | ⟨_, -, hsweep⟩
  · rw [hkeep] at h
    exact h.elim
  · rw [hput] at h
    obtain rfl : _ = id := h
    exact hstores.writes
  · rw [htake] at h
    obtain rfl : _ = id := h
    exact .delete _
  · rw [hsweep] at h
    exact h.elim

end Operation

end EdgeCatalog
