import Mathlib
import EdgeCatalog.Proofs.Query.Outcome
import EdgeCatalog.Proofs.Store.Cost

/-! What calls are counted as. A call comes to one of a few things, its receipt, and the receipt
settles which counters are incremented. Over a run the receipts are counted, and as long as the
words have room for the numbers, the counters show them. -/
namespace EdgeCatalog

inductive Counter
  | adds
  | updates
  | deletes
  | expired
  | rejected
  | lookups
  | misses
  | listings
  | queries
  | inconsistencies
  deriving DecidableEq

namespace Metrics

def read (m : Metrics) : Counter → UInt64
  | .adds => m.adds
  | .updates => m.updates
  | .deletes => m.deletes
  | .expired => m.expired
  | .rejected => m.rejected
  | .lookups => m.lookups
  | .misses => m.misses
  | .listings => m.listings
  | .queries => m.queries
  | .inconsistencies => m.inconsistencies

theorem read_add (m k : Metrics) (counter : Counter) :
    (m + k).read counter = m.read counter + k.read counter := by
  cases counter <;> rfl

end Metrics

/-- What a call comes to, as far as it is counted. -/
inductive Receipt
  | added
  | updated
  | deleted
  /-- A write was refused because of its input. -/
  | rejected
  /-- There was nothing to write to. -/
  | absent
  | found
  | missed
  | listed
  | queried
  /-- There was no query to put: the relation is unknown. -/
  | notQueried
  | swept (removed : Nat)
  /-- Nothing that is counted. -/
  | unrecorded
  deriving DecidableEq

namespace Receipt

/-- The counters that are incremented, as often as they are. -/
def marks : Receipt → List Counter
  | added => [.adds]
  | updated => [.updates]
  | deleted => [.deletes]
  | rejected => [.rejected]
  | absent => [.lookups, .misses]
  | found => [.lookups]
  | missed => [.lookups, .misses]
  | listed => [.listings]
  | queried => [.queries]
  | notQueried => []
  | swept removed => List.replicate removed .expired
  | unrecorded => []

/-- What that adds up to, in words that wrap. -/
def cost : Receipt → Metrics
  | added => { adds := 1 }
  | updated => { updates := 1 }
  | deleted => { deletes := 1 }
  | rejected => { rejected := 1 }
  | absent => { lookups := 1, misses := 1 }
  | found => { lookups := 1 }
  | missed => { lookups := 1, misses := 1 }
  | listed => { listings := 1 }
  | queried => { queries := 1 }
  | notQueried => 0
  | swept removed => { expired := UInt64.ofNat removed }
  | unrecorded => 0

theorem read_cost (receipt : Receipt) (counter : Counter) :
    receipt.cost.read counter = UInt64.ofNat (receipt.marks.count counter) := by
  cases receipt with
  | swept removed => cases counter <;> simp [cost, marks, Metrics.read, List.count_replicate]
  | _ => cases counter <;> rfl

section

variable {α : Type}

/-- A call that can fail in one way only. -/
def ofResult (success failure : Receipt) : Except Error α → Receipt
  | .ok _ => success
  | .error _ => failure

def ofUpdate : Except Error α → Receipt
  | .ok _ => updated
  | .error (.missing _) => absent
  | .error _ => rejected

def ofSweep {ε : Type} : Except Error (Reply ε) → Receipt
  | .ok (.count removed) => swept removed
  | _ => unrecorded

end

/-- What a query comes to does not depend on how it is answered. -/
def ofQuery (relation : String) : Receipt :=
  if relation ∈ Relation.names then queried else notQueried

theorem cost_lookup {α : Type} (result : Except Error α) :
    (ofResult found missed result).cost = Cost.lookup result.isOk := by
  cases result <;> rfl

theorem cost_ofUpdate {α : Type} (result : Except Error α) :
    (ofUpdate result).cost = Cost.write { updates := 1 } result := by
  cases result with
  | ok value => rfl
  | error e => cases e <;> rfl

theorem cost_ofQuery (path relation value : String) :
    (ofQuery relation).cost = Cost.query path relation value := by
  rw [ofQuery, Cost.query]
  split
  · rename_i hname
    obtain ⟨q, hq⟩ := Query.parse_of_mem_names hname path value
    rw [hq]
    rfl
  · rename_i hname
    rw [Query.parse_eq_error_iff.mpr ⟨hname, rfl⟩]
    rfl

/-- Is it one call more on the counters? -/
def isCounted : Receipt → Bool
  | notQueried => false
  | swept _ => false
  | unrecorded => false
  | _ => true

theorem isCounted_ofQuery (relation : String) :
    (ofQuery relation).isCounted = decide (relation ∈ Relation.names) := by
  by_cases h : relation ∈ Relation.names
  · rw [ofQuery, if_pos h, decide_eq_true h]
    rfl
  · rw [ofQuery, if_neg h, decide_eq_false h]
    rfl

/-! ## Tallies -/

/-- How often a counter is incremented in all. -/
def tally (receipts : List Receipt) (counter : Counter) : Nat :=
  (receipts.flatMap marks).count counter

/-- No counter wraps. -/
def Fits (receipts : List Receipt) : Prop :=
  ∀ counter, tally receipts counter < 2 ^ 64

theorem tally_cons (receipt : Receipt) (rest : List Receipt) (counter : Counter) :
    tally (receipt :: rest) counter = receipt.marks.count counter + tally rest counter := by
  rw [tally, List.flatMap_cons, List.count_append, tally]

/-- A lookup is a miss, or something was found. -/
theorem tally_lookups (receipts : List Receipt) :
    tally receipts .lookups = tally receipts .misses + receipts.count found := by
  induction receipts with
  | nil => rfl
  | cons receipt rest ih =>
    rw [tally_cons, tally_cons, List.count_cons, ih]
    cases receipt <;> simp [marks, List.count_replicate] <;> omega

/-- Each call that is counted is counted under one heading; a miss is a lookup already. -/
theorem tally_calls (receipts : List Receipt) :
    tally receipts .adds + tally receipts .updates + tally receipts .deletes
        + tally receipts .rejected + tally receipts .lookups + tally receipts .listings
        + tally receipts .queries = receipts.countP isCounted := by
  induction receipts with
  | nil => rfl
  | cons receipt rest ih =>
    simp only [tally_cons, List.countP_cons, ← ih]
    cases receipt <;> simp [marks, isCounted, List.count_replicate] <;> omega

end Receipt

/-! ## Operations -/

section

variable {σ ε : Type}

namespace Operation

/-- What a call comes to, given its answer. -/
def receipt (answer : Except Error (Reply ε)) : Operation ε → Receipt
  | .add _ _ => .ofResult .added .rejected answer
  | .update _ _ _ => .ofUpdate answer
  | .delete _ => .ofResult .deleted .absent answer
  | .cleanExpired _ => .ofSweep answer
  | .get _ => .ofResult .found .missed answer
  | .getMany _ _ => .listed
  | .filterOne _ relation _ => .ofQuery relation
  | .filterMany _ relation _ _ _ => .ofQuery relation

/-- Is the call one that is counted, whatever it comes to? -/
def isCounted : Operation ε → Bool
  | .cleanExpired _ => false
  | .filterOne _ relation _ => relation ∈ Relation.names
  | .filterMany _ relation _ _ _ => relation ∈ Relation.names
  | _ => true

theorem isCounted_receipt (c : Operation ε) (answer : Except Error (Reply ε)) :
    (c.receipt answer).isCounted = c.isCounted := by
  cases c with
  | add now entry => cases answer <;> rfl
  | update now id entry =>
    cases answer with
    | ok reply => rfl
    | error e => cases e <;> rfl
  | delete id => cases answer <;> rfl
  | cleanExpired now =>
    cases answer with
    | ok reply => cases reply <;> rfl
    | error e => rfl
  | get id => cases answer <;> rfl
  | getMany page perPage => rfl
  | filterOne path relation value => exact Receipt.isCounted_ofQuery relation
  | filterMany path relation value page perPage => exact Receipt.isCounted_ofQuery relation

end Operation

variable [RecordStore σ ε] [Perishable ε]

/-- A store that keeps book, and refuses an addition for its input and a deletion for want of
anything to delete, and for nothing else. -/
structure Accounting (valid : σ → Prop) (records : σ → Table ε) : Prop extends
    Bookkeeping valid records where
  add_error : ∀ {s}, valid s → ∀ {now entry e}, (RecordStore.add s now entry).result = .error e →
    ∃ cause, e = .invalid cause
  delete_error : ∀ {s}, valid s → ∀ {id e}, (RecordStore.delete s id).result = .error e →
    ∃ cause, e = .missing cause

/-- The receipt of an addition does not tell why it failed, and that of a deletion neither: there is
one reason only. -/
theorem Accounting.cost_eq {valid : σ → Prop} {records : σ → Table ε} {s : σ}
    (h : Accounting valid records) (hs : valid s) (c : Operation ε) :
    c.cost (c.answer s) = (c.receipt (c.answer s)).cost := by
  cases c with
  | add now entry =>
    rw [Operation.cost, Operation.receipt]
    cases hanswer : (Operation.add now entry).answer s with
    | ok reply => rfl
    | error e =>
      obtain ⟨cause, rfl⟩ := h.add_error hs (error_of_map hanswer)
      rfl
  | update now id entry => exact (Receipt.cost_ofUpdate _).symm
  | delete id =>
    rw [Operation.cost, Operation.receipt]
    cases hanswer : (Operation.delete id).answer s with
    | ok reply => rfl
    | error e =>
      obtain ⟨cause, rfl⟩ := h.delete_error hs (error_of_map hanswer)
      rfl
  | cleanExpired now => rfl
  | get id => exact (Receipt.cost_lookup _).symm
  | getMany page perPage => rfl
  | filterOne path relation value => exact (Receipt.cost_ofQuery path relation value).symm
  | filterMany path relation value page perPage =>
    exact (Receipt.cost_ofQuery path relation value).symm

end

/-! ## Runs -/

/-- Counters of lookups of which so many were successful, and of so many calls that are counted. -/
structure Metrics.AddUp (m : Metrics) (hits calls : Nat) : Prop where
  misses_le : m.misses ≤ m.lookups
  hits_eq : m.lookups.toNat - m.misses.toNat = hits
  calls_eq : m.adds.toNat + m.updates.toNat + m.deletes.toNat + m.rejected.toNat +
    m.lookups.toNat + m.listings.toNat + m.queries.toNat = calls

namespace CallStore

open Receipt (tally)

variable {σ κ ε : Type} [CallStore σ κ ε]

/-- What calls come to, one after the other. -/
def receipts (receipt : σ → κ → Receipt) : σ → List κ → List Receipt
  | _, [] => []
  | s, c :: rest => receipt s c :: receipts receipt (call s c) rest

/-- A call of a store adds to the counters what its receipt says, as long as the store is one that
calls leave, and whether it is counted is settled beforehand. -/
structure GivesReceipts (valid : σ → Prop) (receipt : σ → κ → Receipt) (counted : κ → Bool) :
    Prop where
  valid_call : ∀ {s}, valid s → ∀ c, valid (call s c)
  metrics_call : ∀ {s}, valid s → ∀ c,
    RecordStore.metrics (call s c) = RecordStore.metrics s + (receipt s c).cost
  counted_eq : ∀ s c, (receipt s c).isCounted = counted c

/-- How the counters of a store that began as `s` come of the calls that were made. -/
structure Accounted (receipt : σ → κ → Receipt) (counted : κ → Bool) (s : σ) (calls : List κ) :
    Prop where
  /-- One more call adds to each counter as often as its receipt says. -/
  each : ∀ c counter, (RecordStore.metrics (call (run s calls) c)).read counter =
    (RecordStore.metrics (run s calls)).read counter +
      UInt64.ofNat ((receipt (run s calls) c).marks.count counter)
  /-- So the counters show the tallies of all calls, -/
  all : ∀ counter, (RecordStore.metrics (run s calls)).read counter =
    UInt64.ofNat (tally (receipts receipt s calls) counter)
  /-- and add up as long as none of them has wrapped. -/
  addUp : Receipt.Fits (receipts receipt s calls) → (RecordStore.metrics (run s calls)).AddUp
    ((receipts receipt s calls).count .found) (calls.countP counted)

namespace GivesReceipts

variable {valid : σ → Prop} {receipt : σ → κ → Receipt} {counted : κ → Bool} {s : σ}

theorem read_call (h : GivesReceipts valid receipt counted) (hs : valid s) (c : κ)
    (counter : Counter) : (RecordStore.metrics (call s c)).read counter =
      (RecordStore.metrics s).read counter +
        UInt64.ofNat ((receipt s c).marks.count counter) := by
  rw [h.metrics_call hs, Metrics.read_add, Receipt.read_cost]

theorem valid_run (h : GivesReceipts valid receipt counted) (hs : valid s) (calls : List κ) :
    valid (run s calls) := by
  induction calls generalizing s with
  | nil => exact hs
  | cons c rest ih => exact ih (h.valid_call hs c)

theorem read_run (h : GivesReceipts valid receipt counted) (hs : valid s) (calls : List κ)
    (counter : Counter) : (RecordStore.metrics (run s calls)).read counter =
      (RecordStore.metrics s).read counter +
        UInt64.ofNat (tally (receipts receipt s calls) counter) := by
  induction calls generalizing s with
  | nil => exact (UInt64.add_zero _).symm
  | cons c rest ih =>
    show (RecordStore.metrics (run (call s c) rest)).read counter = _
    rw [ih (h.valid_call hs c), h.read_call hs, receipts, Receipt.tally_cons, UInt64.ofNat_add,
      UInt64.add_assoc]

theorem countP_receipts (h : GivesReceipts valid receipt counted) (s : σ) (calls : List κ) :
    (receipts receipt s calls).countP Receipt.isCounted = calls.countP counted := by
  induction calls generalizing s with
  | nil => rfl
  | cons c rest ih => rw [receipts, List.countP_cons, List.countP_cons, ih, h.counted_eq]

/-- Counters that began at zero show the tallies. -/
theorem read_run_of_zero (h : GivesReceipts valid receipt counted) (hs : valid s)
    (hzero : RecordStore.metrics s = 0) (calls : List κ) (counter : Counter) :
    (RecordStore.metrics (run s calls)).read counter =
      UInt64.ofNat (tally (receipts receipt s calls) counter) := by
  have hread : (0 : Metrics).read counter = 0 := by cases counter <;> rfl
  rw [h.read_run hs, hzero, hread, UInt64.zero_add]

theorem addUp (h : GivesReceipts valid receipt counted) (hs : valid s)
    (hzero : RecordStore.metrics s = 0) {calls : List κ}
    (hfits : Receipt.Fits (receipts receipt s calls)) : (RecordStore.metrics (run s calls)).AddUp
      ((receipts receipt s calls).count .found) (calls.countP counted) := by
  have hshown (counter : Counter) : ((RecordStore.metrics (run s calls)).read counter).toNat =
      tally (receipts receipt s calls) counter := by
    rw [h.read_run_of_zero hs hzero]
    exact UInt64.toNat_ofNat_of_lt' (hfits counter)
  have hlookups := Receipt.tally_lookups (receipts receipt s calls)
  have hcalls := Receipt.tally_calls (receipts receipt s calls)
  rw [h.countP_receipts] at hcalls
  simp only [← hshown, Metrics.read] at hlookups hcalls
  refine ⟨UInt64.le_iff_toNat_le.mpr ?_, ?_, hcalls⟩
  · omega
  · omega

theorem accounted (h : GivesReceipts valid receipt counted) (hs : valid s)
    (hzero : RecordStore.metrics s = 0) (calls : List κ) : Accounted receipt counted s calls where
  each := h.read_call (h.valid_run hs calls)
  all := h.read_run_of_zero hs hzero calls
  addUp := h.addUp hs hzero

end GivesReceipts

end CallStore

end EdgeCatalog
