import Mathlib
import EdgeCatalog.Query

/-! Queries put to lists of records. A filter goes through the records in their order: a search stops
at the first that matches, a selection goes on to the end, and both stop at a record that the query
cannot be put to. -/
namespace EdgeCatalog.Query

variable {α : Type} {q : Query} {tree : α → Json} {records before : List α} {x : α}
  {cause : Missing}

/-- Does the query match? It does not match what it cannot be put to. -/
def hits (q : Query) (tree : Json) : Bool :=
  match q.eval tree with
  | .ok hit => hit
  | .error _ => false

/-- The first of the records that matches. -/
def first (q : Query) (tree : α → Json) : List α → Except Error (Option α)
  | [] => .ok none
  | x :: rest =>
    match q.eval (tree x) with
    | .error e => .error e
    | .ok true => .ok (some x)
    | .ok false => first q tree rest

/-- The first of the records that matches, and an error if none does. -/
def search (q : Query) (tree : α → Json) (records : List α) (cause : Missing) : Except Error α :=
  match q.first tree records with
  | .error e => .error e
  | .ok (some x) => .ok x
  | .ok none => .error (.missing cause)

/-- All of the records that match. -/
def select (q : Query) (tree : α → Json) : List α → Except Error (List α)
  | [] => .ok []
  | x :: rest =>
    match q.eval (tree x) with
    | .error e => .error e
    | .ok hit => (select q tree rest).map fun found => if hit then x :: found else found

/-! ## What fails -/

/-- Only an unknown relation keeps a query from being parsed. -/
theorem parse_error {path relation value : String} {e : Error}
    (h : parse path relation value = .error e) : e = .invalid (.unknownRelation relation) := by
  rw [parse] at h
  cases hname : Relation.ofName relation with
  | ok r =>
    rw [hname] at h
    cases h
  | error fault =>
    rw [hname] at h
    obtain rfl : fault = e := Except.error.inj h
    simp only [Relation.ofName] at hname
    split_ifs at hname
    exact (Except.error.inj hname).symm

theorem eval_error {node : Json} {e : Error} (h : q.eval node = .error e) :
    ∃ cause, e = .invalid cause := by
  rw [eval] at h
  split at h
  · cases h
  · cases h
  · cases h
  · exact ⟨_, (Except.error.inj h).symm⟩

theorem select_error {e : Error} (h : q.select tree records = .error e) :
    ∃ cause, e = .invalid cause := by
  induction records with
  | nil => cases h
  | cons x rest ih =>
    rw [select] at h
    split at h
    · rename_i fault hfault
      rw [← Except.error.inj h]
      exact eval_error hfault
    · cases hrest : q.select tree rest with
      | error fault =>
        rw [hrest] at h
        exact ih (hrest.trans h)
      | ok found =>
        rw [hrest] at h
        cases h

/-! ## What is found -/

theorem hits_of_eval {node : Json} {hit : Bool} (h : q.eval node = .ok hit) :
    q.hits node = hit := by
  rw [hits, h]

/-- What a search comes to. Nothing before the record at which it ends matches. -/
inductive Finds (q : Query) (tree : α → Json) (records : List α) (cause : Missing) :
    Except Error α → Prop
  | hit {before after : List α} {x : α} (hrecords : records = before ++ x :: after)
      (hbefore : ∀ y ∈ before, q.eval (tree y) = .ok false)
      (hhit : q.eval (tree x) = .ok true) : Finds q tree records cause (.ok x)
  | fault {before after : List α} {x : α} {e : Error} (hrecords : records = before ++ x :: after)
      (hbefore : ∀ y ∈ before, q.eval (tree y) = .ok false)
      (hfault : q.eval (tree x) = .error e) : Finds q tree records cause (.error e)
  | nothing (hmiss : ∀ y ∈ records, q.eval (tree y) = .ok false) :
    Finds q tree records cause (.error (.missing cause))

/-- A record that does not match is passed over. -/
theorem Finds.cons {result : Except Error α} (h : q.Finds tree records cause result)
    (hx : q.eval (tree x) = .ok false) : q.Finds tree (x :: records) cause result := by
  cases h with
  | hit hrecords hbefore hhit =>
    subst hrecords
    exact .hit (List.cons_append ..).symm (List.forall_mem_cons.mpr ⟨hx, hbefore⟩) hhit
  | fault hrecords hbefore hfault =>
    subst hrecords
    exact .fault (List.cons_append ..).symm (List.forall_mem_cons.mpr ⟨hx, hbefore⟩) hfault
  | nothing hmiss => exact .nothing (List.forall_mem_cons.mpr ⟨hx, hmiss⟩)

theorem finds_search (q : Query) (tree : α → Json) (records : List α) (cause : Missing) :
    q.Finds tree records cause (q.search tree records cause) := by
  induction records with
  | nil => exact .nothing fun _ hy => absurd hy List.not_mem_nil
  | cons x rest ih =>
    rw [search, first]
    cases hx : q.eval (tree x) with
    | error e => exact .fault (List.nil_append _).symm (fun _ hy => absurd hy List.not_mem_nil) hx
    | ok hit =>
      cases hit with
      | true => exact .hit (List.nil_append _).symm (fun _ hy => absurd hy List.not_mem_nil) hx
      | false => exact ih.cons hx

theorem first_append (hbefore : ∀ y ∈ before, q.eval (tree y) = .ok false) (rest : List α) :
    q.first tree (before ++ rest) = q.first tree rest := by
  induction before with
  | nil => rfl
  | cons y others ih =>
    obtain ⟨hy, hothers⟩ := List.forall_mem_cons.mp hbefore
    rw [List.cons_append, first, hy]
    exact ih hothers

theorem Finds.search_eq {result : Except Error α} (h : q.Finds tree records cause result) :
    q.search tree records cause = result := by
  cases h with
  | hit hrecords hbefore hhit => rw [search, hrecords, first_append hbefore, first, hhit]
  | fault hrecords hbefore hfault => rw [search, hrecords, first_append hbefore, first, hfault]
  | nothing hmiss =>
    have hfirst := first_append hmiss []
    rw [List.append_nil] at hfirst
    rw [search, hfirst, first]

theorem search_eq_iff {result : Except Error α} :
    q.search tree records cause = result ↔ q.Finds tree records cause result := by
  constructor
  · rintro rfl
    exact finds_search q tree records cause
  · exact Finds.search_eq

theorem Finds.mem (h : q.Finds tree records cause (.ok x)) : x ∈ records := by
  cases h with
  | hit hrecords _ _ => exact hrecords ▸ List.mem_append_right _ List.mem_cons_self

theorem mem_of_search (h : q.search tree records cause = .ok x) : x ∈ records :=
  (search_eq_iff.mp h).mem

/-- What a selection finds are the records that match, in their order. -/
theorem select_eq_ok {found : List α} (h : q.select tree records = .ok found) :
    found = records.filter fun x => q.hits (tree x) := by
  induction records generalizing found with
  | nil => exact (Except.ok.inj h).symm
  | cons x rest ih =>
    rw [select] at h
    split at h
    · cases h
    · rename_i hit hhit
      cases hrest : q.select tree rest with
      | error e =>
        rw [hrest] at h
        cases h
      | ok later =>
        rw [hrest] at h
        obtain rfl := Except.ok.inj h
        rw [List.filter_cons, hits_of_eval hhit, ih hrest]

theorem sublist_of_select {found : List α} (h : q.select tree records = .ok found) :
    found.Sublist records := by
  rw [select_eq_ok h]
  exact List.filter_sublist

end EdgeCatalog.Query
