import Mathlib
import EdgeCatalog.Session

/-! Calls of a store. A call carries all that its outcome depends on besides the store: its
arguments, and the reading of the clock where it takes one. -/
namespace EdgeCatalog

/-- The outcome with another store. -/
def Step.onStore {σ α : Type} (f : σ → σ) (step : Step σ α) : Step σ α :=
  { step with store := f step.store }

/-- The outcome with another store. -/
def Swept.onStore {σ : Type} (f : σ → σ) (swept : Swept σ) : Swept σ :=
  { swept with store := f swept.store }

/-- A result that is only wrapped fails where it fails itself. -/
theorem error_of_map {α β : Type} {f : α → β} {result : Except Error α} {e : Error}
    (h : result.map f = .error e) : result = .error e := by
  cases result with
  | error fault => rw [Except.error.inj h]
  | ok value => cases h

/-- A call of the interface that all stores of records share. -/
inductive Operation (ε : Type)
  | add (now : Instant) (entry : ε)
  | update (now : Instant) (id : String) (entry : ε)
  | delete (id : String)
  | cleanExpired (now : Instant)
  | get (id : String)
  | getMany (page perPage : UInt64)
  | filterOne (path relation value : String)
  | filterMany (path relation value : String) (page perPage : UInt64)

namespace Operation

variable {σ ε : Type}

/-- The store that a call leaves. -/
def apply [RecordStore σ ε] (s : σ) : Operation ε → σ
  | .add now entry => (RecordStore.add s now entry).store
  | .update now id entry => (RecordStore.update s now id entry).store
  | .delete id => (RecordStore.delete s id).store
  | .cleanExpired now => (RecordStore.cleanExpired s now).store
  | .get id => (RecordStore.get s id).store
  | .getMany page perPage => (RecordStore.getMany s page perPage).store
  | .filterOne path relation value => (RecordStore.filterOne s path relation value).store
  | .filterMany path relation value page perPage =>
    (RecordStore.filterMany s path relation value page perPage).store

/-- What a call answers. -/
def answer [RecordStore σ ε] (s : σ) : Operation ε → Except Error (Reply ε)
  | .add now entry => (RecordStore.add s now entry).result.map .record
  | .update now id entry => (RecordStore.update s now id entry).result.map .record
  | .delete id => (RecordStore.delete s id).result.map .record
  | .cleanExpired now => .ok (.count (RecordStore.cleanExpired s now).removed)
  | .get id => (RecordStore.get s id).result.map .record
  | .getMany page perPage => (RecordStore.getMany s page perPage).result.map .page
  | .filterOne path relation value =>
    (RecordStore.filterOne s path relation value).result.map .record
  | .filterMany path relation value page perPage =>
    (RecordStore.filterMany s path relation value page perPage).result.map .page

/-- Is it a call that a caller writes with? -/
def IsWrite : Operation ε → Prop
  | .add _ _ => True
  | .update _ _ _ => True
  | .delete _ => True
  | _ => False

end Operation

/-! ## Stores that calls cannot tell apart -/

section

variable {σ ε : Type} [RecordStore σ ε] {f : σ → σ}

/-- Whatever is called, a change of the store neither shows in the result nor interferes with what
the call does. -/
structure Unnoticed (f : σ → σ) : Prop where
  add : ∀ s now entry, RecordStore.add (f s) now entry = (RecordStore.add s now entry).onStore f
  update : ∀ s now id entry,
    RecordStore.update (f s) now id entry = (RecordStore.update s now id entry).onStore f
  delete : ∀ s id, RecordStore.delete (f s) id = (RecordStore.delete s id).onStore f
  cleanExpired : ∀ s now,
    RecordStore.cleanExpired (f s) now = (RecordStore.cleanExpired s now).onStore f
  get : ∀ s id, RecordStore.get (f s) id = (RecordStore.get s id).onStore f
  getMany : ∀ s page perPage,
    RecordStore.getMany (f s) page perPage = (RecordStore.getMany s page perPage).onStore f
  filterOne : ∀ s path relation value, RecordStore.filterOne (f s) path relation value =
    (RecordStore.filterOne s path relation value).onStore f
  filterMany : ∀ s path relation value page perPage,
    RecordStore.filterMany (f s) path relation value page perPage =
      (RecordStore.filterMany s path relation value page perPage).onStore f

theorem Unnoticed.answer (h : Unnoticed f) (s : σ) (c : Operation ε) :
    c.answer (f s) = c.answer s := by
  cases c with
  | add now entry => rw [Operation.answer, h.add]; rfl
  | update now id entry => rw [Operation.answer, h.update]; rfl
  | delete id => rw [Operation.answer, h.delete]; rfl
  | cleanExpired now => rw [Operation.answer, h.cleanExpired]; rfl
  | get id => rw [Operation.answer, h.get]; rfl
  | getMany page perPage => rw [Operation.answer, h.getMany]; rfl
  | filterOne path relation value => rw [Operation.answer, h.filterOne]; rfl
  | filterMany path relation value page perPage => rw [Operation.answer, h.filterMany]; rfl

theorem Unnoticed.apply (h : Unnoticed f) (s : σ) (c : Operation ε) :
    c.apply (f s) = f (c.apply s) := by
  cases c with
  | add now entry => rw [Operation.apply, h.add]; rfl
  | update now id entry => rw [Operation.apply, h.update]; rfl
  | delete id => rw [Operation.apply, h.delete]; rfl
  | cleanExpired now => rw [Operation.apply, h.cleanExpired]; rfl
  | get id => rw [Operation.apply, h.get]; rfl
  | getMany page perPage => rw [Operation.apply, h.getMany]; rfl
  | filterOne path relation value => rw [Operation.apply, h.filterOne]; rfl
  | filterMany path relation value page perPage => rw [Operation.apply, h.filterMany]; rfl

end

end EdgeCatalog
