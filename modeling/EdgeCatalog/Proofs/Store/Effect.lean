import Mathlib
import EdgeCatalog.Proofs.Expiry
import EdgeCatalog.Proofs.Store.Operation
import EdgeCatalog.Proofs.Table

/-! What calls do to the records of a store. A call puts a record in under an id, takes one out,
removes all that have expired, or leaves the records alone; which of these it is follows from the
call and its result. A record that is neither replaced nor taken out goes only with a sweep that
finds it expired, so a run of calls keeps it just when all of its sweeps do. -/
namespace EdgeCatalog

/-- A record that may expire, with the id it goes by. -/
class Perishable (ε : Type) where
  id : ε → String
  ttl : ε → Int64
  expires : ε → Option Instant

instance : Perishable Device := ⟨Device.id, Device.ttl, Device.expires⟩

instance : Perishable Service := ⟨Service.id, Service.ttl, Service.expires⟩

/-- Do sweeps at these instants leave the record? -/
def survives {ε : Type} [Perishable ε] (sweeps : List Instant) (r : ε) : Bool :=
  sweeps.all fun now => !Expiry.isExpired (Perishable.ttl r) (Perishable.expires r) now

theorem survives_singleton {ε : Type} [Perishable ε] (now : Instant) (r : ε) :
    survives [now] r = !Expiry.isExpired (Perishable.ttl r) (Perishable.expires r) now :=
  Bool.and_true _

/-- What a call does to the records. -/
inductive Effect (ε : Type)
  | keep
  | put (id : String) (entry : ε)
  | take (id : String)
  | sweep (now : Instant)

namespace Effect

variable {ε : Type} {id : String}

/-- Is a record put in or taken out under the id? -/
def Touches (id : String) : Effect ε → Prop
  | .keep => False
  | .put other _ => other = id
  | .take other => other = id
  | .sweep _ => False

/-- The instants of the sweeps among effects. -/
def sweeps : List (Effect ε) → List Instant
  | [] => []
  | .sweep now :: rest => now :: sweeps rest
  | _ :: rest => sweeps rest

theorem sweeps_append (a b : List (Effect ε)) : sweeps (a ++ b) = sweeps a ++ sweeps b := by
  induction a with
  | nil => rfl
  | cons e rest ih => cases e <;> simp only [List.cons_append, sweeps, ih]

variable [Perishable ε]

def apply (m : Table ε) : Effect ε → Table ε
  | .keep => m
  | .put id entry => m.insert id entry
  | .take id => m.erase id
  | .sweep now => m.filter (survives [now])

/-- What is found under an id that is not touched. -/
theorem get?_apply {e : Effect ε} (h : ¬e.Touches id) (m : Table ε) :
    (apply m e).get? id = (m.get? id).filter (survives (sweeps [e])) := by
  have hall : (m.get? id).filter (survives []) = m.get? id := by
    cases m.get? id <;> rfl
  cases e with
  | keep => exact hall.symm
  | put other entry =>
    rw [apply, Table.get?_insert, if_neg (show ¬other = id from h)]
    exact hall.symm
  | take other =>
    rw [apply, Table.get?_erase, if_neg (show ¬other = id from h)]
    exact hall.symm
  | sweep now => rw [apply, Table.get?_filter, sweeps, sweeps]

theorem get?_foldl_apply {effects : List (Effect ε)} (h : ∀ e ∈ effects, ¬e.Touches id)
    (m : Table ε) :
    (effects.foldl apply m).get? id = (m.get? id).filter (survives (sweeps effects)) := by
  induction effects generalizing m with
  | nil =>
    rw [List.foldl_nil]
    cases m.get? id <;> rfl
  | cons e rest ih =>
    have hsplit : sweeps (e :: rest) = sweeps [e] ++ sweeps rest := sweeps_append [e] rest
    -- what the first effect leaves is filtered by the later sweeps, so both filters make one
    rw [List.foldl_cons, ih fun e' he' => h e' (List.mem_cons_of_mem e he'),
      get?_apply (h e List.mem_cons_self), Option.filter_filter, hsplit]
    congr 1
    funext r
    rw [survives, survives, survives, List.all_append]

end Effect

/-! ## Calls and their effects -/

section

variable {σ κ ε : Type} [Perishable ε]

/-- What a call does to the records, given what it results in. -/
def Operation.effect [RecordStore σ ε] (s : σ) : Operation ε → Effect ε
  | .add now entry =>
    match (RecordStore.add s now entry).result with
    | .ok stored => .put (Perishable.id entry) stored
    | .error _ => .keep
  | .update now id entry =>
    match (RecordStore.update s now id entry).result with
    | .ok stored => .put id stored
    | .error _ => .keep
  | .delete id =>
    match (RecordStore.delete s id).result with
    | .ok _ => .take id
    | .error _ => .keep
  | .cleanExpired now => .sweep now
  | _ => .keep

/-- An entry that a call stores, the id under which it does, and the time at which. -/
inductive Operation.Stores : Operation ε → String → Instant → ε → Prop
  | add (now : Instant) (entry : ε) : Stores (.add now entry) (Perishable.id entry) now entry
  | update (now : Instant) (id : String) (entry : ε) : Stores (.update now id entry) id now entry

/-- A call that stores an entry and succeeds puts its answer in. -/
theorem Operation.Stores.effect_eq [RecordStore σ ε] {s : σ} {c : Operation ε} {id : String}
    {now : Instant} {entry r : ε} (h : c.Stores id now entry) (hok : c.answer s = .ok (.record r)) :
    c.effect s = .put id r := by
  cases h with
  | add =>
    rw [answer] at hok
    rw [effect]
    cases hresult : (RecordStore.add s now entry).result with
    | error e =>
      rw [hresult] at hok
      cases hok
    | ok stored =>
      rw [hresult] at hok
      cases hok
      rfl
  | update =>
    rw [answer] at hok
    rw [effect]
    cases hresult : (RecordStore.update s now id entry).result with
    | error e =>
      rw [hresult] at hok
      cases hok
    | ok stored =>
      rw [hresult] at hok
      cases hok
      rfl

/-- A store with all that can be called on it. -/
class CallStore (σ : Type) (κ ε : outParam Type) extends RecordStore σ ε where
  call : σ → κ → σ
  /-- The call as one that all stores share, if it is one. Other calls leave the records alone. -/
  shared? : κ → Option (Operation ε)

namespace CallStore

variable [CallStore σ κ ε]

def effect (s : σ) (c : κ) : Effect ε :=
  match shared? σ c with
  | some operation => operation.effect s
  | none => .keep

/-- The effects of calls, one after the other. -/
def effects : σ → List κ → List (Effect ε)
  | _, [] => []
  | s, c :: rest => effect s c :: effects (call s c) rest

/-- The store that calls leave, one after the other. -/
def run (s : σ) (calls : List κ) : σ :=
  calls.foldl call s

/-- No record is put in or taken out under the id: no call on it is an addition, an update or a
deletion of the id that succeeds. -/
def Untouched (id : String) (s : σ) (calls : List κ) : Prop :=
  ∀ e ∈ effects s calls, ¬e.Touches id

/-- The instants at which calls sweep the store. -/
def sweeps (s : σ) (calls : List κ) : List Instant :=
  Effect.sweeps (effects s calls)

theorem effects_append (s : σ) (before after : List κ) :
    effects s (before ++ after) = effects s before ++ effects (run s before) after := by
  induction before generalizing s with
  | nil => rfl
  | cons c rest ih =>
    rw [List.cons_append, effects, ih, effects]
    rfl

/-- The records of a store, as long as it is one that calls leave, change by the effects of the
calls, and reading a record finds what the records hold. -/
structure Tracks (valid : σ → Prop) (records : σ → Table ε) : Prop where
  valid_call : ∀ {s}, valid s → ∀ c, valid (call s c)
  records_call : ∀ {s}, valid s → ∀ c, records (call s c) = Effect.apply (records s) (effect s c)
  get : ∀ {s}, valid s → ∀ id r, (RecordStore.get s id).result = .ok r ↔ (records s).get? id = some r

variable {valid : σ → Prop} {records : σ → Table ε} {s s' : σ} {calls : List κ} {id : String}

/-- Stores that show the same record under every id hold the same records. -/
theorem Tracks.records_eq_of_get (h : Tracks valid records) (hs : valid s) (hs' : valid s')
    (hget : ∀ id, (RecordStore.get s id).result = (RecordStore.get s' id).result) :
    records s = records s' := by
  refine Table.ext_get? fun id => Option.ext fun r => ?_
  rw [← h.get hs, ← h.get hs', hget]

theorem Tracks.run (h : Tracks valid records) (hs : valid s) (calls : List κ) :
    valid (CallStore.run s calls) ∧
      records (CallStore.run s calls) = (effects s calls).foldl Effect.apply (records s) := by
  induction calls generalizing s with
  | nil => exact ⟨hs, rfl⟩
  | cons c rest ih =>
    obtain ⟨hvalid, hrecords⟩ := ih (h.valid_call hs c)
    rw [h.records_call hs] at hrecords
    exact ⟨hvalid, hrecords⟩

/-- What is left of an untouched record: it survives the sweeps, or it is gone. -/
theorem Tracks.get?_run (h : Tracks valid records) (hs : valid s) (hun : Untouched id s calls) :
    (records (CallStore.run s calls)).get? id =
      ((records s).get? id).filter (survives (sweeps s calls)) := by
  rw [(h.run hs calls).2]
  exact Effect.get?_foldl_apply hun _

/-! ## Lifetimes -/

/-- How long a record lives that was stored under an id at some time, with so many seconds to live,
while calls leave it alone. -/
structure Lifetime (gone : σ → ε → Prop) (s : σ) (calls : List κ) (id : String) (now : Instant)
    (ttl : Int64) (r : ε) : Prop where
  /-- With a negative time to live it is kept for ever. -/
  forever : ttl < 0 → (RecordStore.get (run s calls) id).result = .ok r
  /-- Otherwise it is kept until the first sweep at or after the instant at which it is due. -/
  untilDue : 0 ≤ ttl → ∃ due, now.addSeconds? ttl.toInt = some due ∧
    ((RecordStore.get (run s calls) id).result = .ok r ↔ ∀ swept ∈ sweeps s calls, swept < due) ∧
    ∀ before after, calls = before ++ after → (∃ swept ∈ sweeps s before, due ≤ swept) →
      gone (run s before) r

theorem survives_of_neg {r : ε} {now : Instant}
    (hexpires : Expiry.expiryFor now (Perishable.ttl r) = .ok (Perishable.expires r))
    (hneg : Perishable.ttl r < 0) (sweeps : List Instant) : survives sweeps r = true := by
  refine List.all_eq_true.mpr fun swept _ => ?_
  rw [Expiry.expires_of_neg hexpires hneg]
  rfl

theorem survives_iff {r : ε} {due : Instant} (hdue : Perishable.expires r = some due)
    (hpos : 0 ≤ Perishable.ttl r) (sweeps : List Instant) :
    survives sweeps r = true ↔ ∀ swept ∈ sweeps, swept < due := by
  rw [survives, List.all_eq_true]
  refine forall₂_congr fun swept _ => ?_
  rw [hdue, Expiry.isExpired_some hpos, Bool.not_eq_true', decide_eq_false_iff_not]
  rfl

/-- A record that is stored lives as long as its time to live says, provided that it is `gone` once
nothing is left under its id. -/
theorem Tracks.lifetime (h : Tracks valid records) (hs : valid s) {r : ε}
    (hr : (records s).get? id = some r) {now : Instant}
    (hexpires : Expiry.expiryFor now (Perishable.ttl r) = .ok (Perishable.expires r))
    {gone : σ → ε → Prop} (hgone : ∀ {s}, valid s → (records s).get? id = none → gone s r)
    (hun : Untouched id s calls) : Lifetime gone s calls id now (Perishable.ttl r) r where
  forever hneg := by
    rw [h.get (h.run hs calls).1, h.get?_run hs hun, hr,
      Option.filter_some_pos (survives_of_neg hexpires hneg _)]
  untilDue hpos := by
    obtain ⟨due, hadd, hdue⟩ := Expiry.expires_of_nonneg hexpires hpos
    refine ⟨due, hadd, ?_, ?_⟩
    · rw [h.get (h.run hs calls).1, h.get?_run hs hun, hr, Option.filter_eq_some_iff,
        survives_iff hdue hpos]
      exact and_iff_right rfl
    · rintro before after rfl ⟨swept, hswept, hle⟩
      -- what is called after the sweep does not matter: the record is gone when it comes
      have hbefore : Untouched id s before := by
        intro e he
        refine hun e ?_
        rw [effects_append]
        exact List.mem_append_left _ he
      have hdead : ¬survives (sweeps s before) r = true := by
        rw [survives_iff hdue hpos]
        exact fun hall => hall swept hswept hle
      refine hgone (h.run hs before).1 ?_
      rw [h.get?_run hs hbefore, hr, Option.filter_some_neg (Bool.eq_false_iff.mpr hdead)]

end CallStore

end

end EdgeCatalog
