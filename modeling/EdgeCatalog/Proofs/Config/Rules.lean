import Mathlib
import EdgeCatalog.Config.Basic
import EdgeCatalog.Proofs.Id.Grammar

/-! Which configurations are valid. The checks scan texts; what they ask for is said here without
scanning: an endpoint ends in a colon and the digits of a port, and the id under which a catalog
registers itself is made of two names. A configuration that is not valid is refused for the first
rule that it breaks (`check_exact`). -/
namespace EdgeCatalog

/-- An id made around a slash is one of a record just when both parts are names. -/
theorem Id.isRecord_slash_iff {space name : String} :
    IsRecord (space ++ "/" ++ name) ↔ IsName space ∧ IsName name := by
  constructor
  · rintro ⟨space', name', hspace, hname, heq⟩
    have hchars := congrArg String.toList heq
    rw [toList_slash, toList_slash] at hchars
    -- both sides have one slash, so that the given parts have none
    have hcount := congrArg (List.count '/') hchars
    simp only [List.count_append, List.count_cons_self, hspace.count_slash, hname.count_slash]
      at hcount
    have hnone : '/' ∉ name.toList := List.count_eq_zero.mp (by omega)
    obtain ⟨hleft, hright⟩ := last_slash_unique hnone hname.2 hchars
    rw [String.toList_inj.mp hleft, String.toList_inj.mp hright]
    exact ⟨hspace, hname⟩
  · rintro ⟨hspace, hname⟩
    exact ⟨space, name, hspace, hname, rfl⟩

theorem Text.allBlank_eq_false_iff {s : String} :
    allBlank s = false ↔ ∃ c ∈ s.toList, isBlank c = false := by
  rw [allBlank, List.all_eq_false]
  simp

namespace Config

/-! ## Endpoints -/

/-- The decimal digits of a number, the most significant one first, after any number of zeros. -/
structure IsNumeral (digits : List Char) (n : Nat) : Prop where
  ne_nil : digits ≠ []
  digit : ∀ c ∈ digits, '0' ≤ c ∧ c ≤ '9'
  value : Nat.ofDigits 10 (digits.reverse.map fun c => c.toNat - '0'.toNat) = n

/-- The number of a port, which may have a plus sign in front. -/
def IsPort (text : List Char) : Prop :=
  ∃ (sign digits : List Char) (n : Nat), (sign = [] ∨ sign = ['+']) ∧ text = sign ++ digits ∧
    IsNumeral digits n ∧ n ≤ 65535

/-- A colon, and behind the last one a port. -/
def EndsInPort (endpoint : String) : Prop :=
  ∃ before port : List Char, endpoint.toList = before ++ ':' :: port ∧ ':' ∉ port ∧ IsPort port

theorem isDigit_iff {c : Char} : c.isDigit = true ↔ '0' ≤ c ∧ c ≤ '9' := by
  rw [Char.isDigit, Bool.and_eq_true, decide_eq_true_eq, decide_eq_true_eq]
  rfl

/-- Taking one digit after the other gives every digit its place. -/
theorem foldl_digits (digits : List Char) :
    digits.foldl (fun n c => n * 10 + (c.toNat - 48)) 0 =
      Nat.ofDigits 10 (digits.reverse.map fun c => c.toNat - '0'.toNat) := by
  induction digits using List.reverseRecOn with
  | nil => rfl
  | append_singleton digits c ih =>
    rw [List.foldl_append, ih, List.reverse_append, List.reverse_singleton, List.singleton_append,
      List.map_cons, Nat.ofDigits_cons]
    show _ * 10 + (c.toNat - 48) = (c.toNat - 48) + 10 * _
    omega

/-- A text without its plus sign, if there is one in front. -/
def unsigned : List Char → List Char
  | '+' :: rest => rest
  | cs => cs

theorem unsigned_of_digits {digits : List Char} (h : ∀ c ∈ digits, '0' ≤ c ∧ c ≤ '9') :
    unsigned digits = digits := by
  unfold unsigned
  split
  · exact absurd (h '+' List.mem_cons_self) (by decide)
  · rfl

theorem eq_or_eq_cons_unsigned (text : List Char) :
    text = unsigned text ∨ text = '+' :: unsigned text := by
  unfold unsigned
  split
  · exact .inr rfl
  · exact .inl rfl

theorem port?_eq_some_iff {text : List Char} {n : Nat} :
    port? text = some n ↔ IsNumeral (unsigned text) n ∧ n ≤ 65535 := by
  have hport : port? text =
      if (unsigned text).isEmpty || !(unsigned text).all Char.isDigit then none
      else if (unsigned text).foldl (fun n c => n * 10 + (c.toNat - 48)) 0 ≤ 65535 then
        some ((unsigned text).foldl (fun n c => n * 10 + (c.toNat - 48)) 0)
      else none := rfl
  rw [hport, foldl_digits]
  constructor
  · intro h
    split at h
    · cases h
    rename_i hdigits
    split at h
    · rename_i hle
      obtain rfl := Option.some.inj h
      simp only [Bool.or_eq_true, List.isEmpty_iff, Bool.not_eq_true', not_or,
        Bool.not_eq_false, List.all_eq_true] at hdigits
      exact ⟨⟨hdigits.1, fun c hc => isDigit_iff.mp (hdigits.2 c hc), rfl⟩, hle⟩
    · cases h
  · rintro ⟨⟨hne, hdigit, rfl⟩, hle⟩
    have hall : (unsigned text).all Char.isDigit = true :=
      List.all_eq_true.mpr fun c hc => isDigit_iff.mpr (hdigit c hc)
    rw [if_neg (by simp [hne, hall]), if_pos hle]

theorem isPort_iff {text : List Char} : IsPort text ↔ (port? text).isSome = true := by
  rw [Option.isSome_iff_exists]
  constructor
  · rintro ⟨sign, digits, n, hsign, rfl, hnum, hle⟩
    refine ⟨n, port?_eq_some_iff.mpr ⟨?_, hle⟩⟩
    rcases hsign with rfl | rfl
    · rwa [List.nil_append, unsigned_of_digits hnum.digit]
    · exact hnum
  · rintro ⟨n, h⟩
    obtain ⟨hnum, hle⟩ := port?_eq_some_iff.mp h
    rcases eq_or_eq_cons_unsigned text with htext | htext
    · exact ⟨[], unsigned text, n, .inl rfl, htext, hnum, hle⟩
    · exact ⟨['+'], unsigned text, n, .inr rfl, htext, hnum, hle⟩

/-- Read backwards, the last colon is the first. -/
theorem afterLastColon?_eq_some_iff {text port : List Char} :
    afterLastColon? text = some port ↔ ∃ before, text = before ++ ':' :: port ∧ ':' ∉ port := by
  have hstop (back rest : List Char) (hback : ':' ∉ back) :
      (back ++ ':' :: rest).takeWhile (· ≠ ':') = back := by
    have hall : ∀ c ∈ back, decide (c ≠ ':') = true := by
      intro c hc
      exact decide_eq_true fun heq => hback (heq ▸ hc)
    rw [List.takeWhile_append_of_pos hall, List.takeWhile_cons_of_neg (by simp), List.append_nil]
  rw [afterLastColon?]
  constructor
  · intro h
    split at h
    · rename_i hcolon
      obtain ⟨back, rest, htext, hback⟩ := List.eq_append_cons_of_mem (List.mem_reverse.mpr hcolon)
      rw [htext, hstop back rest hback] at h
      obtain rfl := Option.some.inj h
      refine ⟨rest.reverse, ?_, by simpa using hback⟩
      rw [← List.reverse_reverse text, htext]
      simp
    · cases h
  · rintro ⟨before, rfl, hport⟩
    have hback : (before ++ ':' :: port).reverse = port.reverse ++ ':' :: before.reverse := by simp
    rw [if_pos (by simp), hback, hstop _ _ (by simpa using hport), List.reverse_reverse]

theorem hasPort_iff {endpoint : String} : hasPort endpoint = true ↔ EndsInPort endpoint := by
  rw [hasPort]
  constructor
  · intro h
    split at h
    · rename_i port hport
      obtain ⟨before, htext, hcolon⟩ := afterLastColon?_eq_some_iff.mp hport
      exact ⟨before, port, htext, hcolon, isPort_iff.mpr h⟩
    · cases h
  · rintro ⟨before, port, htext, hcolon, hport⟩
    rw [afterLastColon?_eq_some_iff.mpr ⟨before, htext, hcolon⟩]
    exact isPort_iff.mp hport

/-! ## Rules -/

/-- The rules of a configuration. -/
inductive Rule
  | name
  | endpoint
  | maxPerPage
  | sweepInterval
  | registration
  deriving DecidableEq

/-- The order in which broken rules are reported. -/
def rules : List Rule :=
  [.name, .endpoint, .maxPerPage, .sweepInterval, .registration]

theorem mem_rules (rule : Rule) : rule ∈ rules := by
  cases rule <;> decide

/-- What a rule asks of a configuration. -/
def Keeps (c : Config) : Rule → Prop
  | .name => ∃ char ∈ c.name.toList, Text.isBlank char = false
  | .endpoint => EndsInPort c.endpoint
  | .maxPerPage => 0 < c.maxPerPage
  | .sweepInterval => 0 < c.sweepIntervalSecs
  | .registration =>
    c.kind = .service → c.selfRegister = true → Id.IsName c.host ∧ Id.IsName c.name

/-- How a broken rule is reported. -/
def complaint (c : Config) : Rule → Misconfigured
  | .name => .emptyName
  | .endpoint => .endpoint c.endpoint
  | .maxPerPage => .maxPerPage
  | .sweepInterval => .sweepInterval
  | .registration => .registrationId (.recordId c.registrationId)

instance (endpoint : String) : Decidable (EndsInPort endpoint) :=
  decidable_of_iff _ hasPort_iff

instance (c : Config) : DecidablePred c.Keeps
  | .name => inferInstanceAs (Decidable (∃ char ∈ c.name.toList, _))
  | .endpoint => inferInstanceAs (Decidable (EndsInPort _))
  | .maxPerPage => inferInstanceAs (Decidable (_ < _))
  | .sweepInterval => inferInstanceAs (Decidable (_ < _))
  | .registration => inferInstanceAs (Decidable (_ → _))

/-- Goes through some of the rules and stops at the first one that is broken. -/
def audit (c : Config) : List Rule → Except Error Unit
  | [] => .ok ()
  | rule :: rest =>
    if c.Keeps rule then c.audit rest else .error (.misconfigured (c.complaint rule))

theorem audit_eq_ok_iff {c : Config} {checked : List Rule} :
    c.audit checked = .ok () ↔ ∀ rule ∈ checked, c.Keeps rule := by
  induction checked with
  | nil => simp [audit]
  | cons rule rest ih => by_cases hkept : c.Keeps rule <;> simp [audit, hkept, ih]

/-- What is reported is a broken rule, and all rules before it are kept. -/
theorem audit_eq_error_iff {c : Config} {checked : List Rule} {e : Error} :
    c.audit checked = .error e ↔ ∃ earlier rule later, checked = earlier ++ rule :: later ∧
      (∀ kept ∈ earlier, c.Keeps kept) ∧ ¬c.Keeps rule ∧ e = .misconfigured (c.complaint rule) := by
  induction checked with
  | nil => simp [audit]
  | cons first rest ih =>
    rw [audit]
    by_cases hkept : c.Keeps first
    · rw [if_pos hkept, ih]
      constructor
      · rintro ⟨earlier, rule, later, rfl, hearlier, hbroken⟩
        exact ⟨first :: earlier, rule, later, rfl, List.forall_mem_cons.mpr ⟨hkept, hearlier⟩,
          hbroken⟩
      · rintro ⟨earlier, rule, later, hsplit, hearlier, hbroken, he⟩
        cases earlier with
        | nil =>
          obtain ⟨rfl, -⟩ := List.cons.inj hsplit
          exact absurd hkept hbroken
        | cons kept earlier =>
          obtain ⟨-, rfl⟩ := List.cons.inj hsplit
          exact ⟨earlier, rule, later, rfl, (List.forall_mem_cons.mp hearlier).2, hbroken, he⟩
    · rw [if_neg hkept]
      constructor
      · intro h
        exact ⟨[], first, rest, rfl, List.forall_mem_nil _, hkept, (Except.error.inj h).symm⟩
      · rintro ⟨earlier, rule, later, hsplit, hearlier, -, rfl⟩
        cases earlier with
        | nil =>
          obtain ⟨rfl, -⟩ := List.cons.inj hsplit
          rfl
        | cons kept earlier =>
          obtain ⟨rfl, -⟩ := List.cons.inj hsplit
          exact absurd (hearlier first List.mem_cons_self) hkept

/-! ## The check -/

/-- The check goes through all rules in their order. -/
theorem check_eq_audit (c : Config) : c.check = c.audit rules := by
  have hname : Text.allBlank c.name = true ↔ ¬c.Keeps .name := by
    rw [Keeps, ← Text.allBlank_eq_false_iff, Bool.not_eq_false]
  have hendpoint : (!hasPort c.endpoint) = true ↔ ¬c.Keeps .endpoint := by
    rw [Keeps, ← hasPort_iff, Bool.not_eq_true', Bool.not_eq_true]
  have hpage : c.maxPerPage = 0 ↔ ¬c.Keeps .maxPerPage := by
    rw [Keeps, UInt64.pos_iff_ne_zero, not_not]
  have hsweep : c.sweepIntervalSecs = 0 ↔ ¬c.Keeps .sweepInterval := by
    rw [Keeps, UInt64.pos_iff_ne_zero, not_not]
  simp only [check, rules, audit, complaint, hname, hendpoint, hpage, hsweep, ite_not]
  -- after four rules that are kept, the id is checked, for a service that registers itself
  congr 4
  by_cases hown : c.kind = .service ∧ c.selfRegister = true
  · rw [if_pos hown]
    by_cases hid : Id.IsRecord c.registrationId
    · have hkept : c.Keeps .registration := fun _ _ => Id.isRecord_slash_iff.mp hid
      rw [Id.checkRecord_eq_ok_iff.mpr hid, if_pos hkept]
    · have hbroken : ¬c.Keeps .registration := fun hkept =>
        hid (Id.isRecord_slash_iff.mpr (hkept hown.1 hown.2))
      rw [Id.checkRecord_of_not hid, if_neg hbroken]
  · have hkept : c.Keeps .registration := fun hkind hself => absurd ⟨hkind, hself⟩ hown
    rw [if_neg hown, if_pos hkept]

/-- A configuration is valid just when it keeps every rule. If it breaks some, it is refused for the
first of them. -/
theorem check_exact (c : Config) :
    (c.check = .ok () ↔ ∀ rule, c.Keeps rule) ∧
    ∀ e, c.check = .error e ↔ ∃ earlier rule later, rules = earlier ++ rule :: later ∧
      (∀ kept ∈ earlier, c.Keeps kept) ∧ ¬c.Keeps rule ∧ e = .misconfigured (c.complaint rule) := by
  rw [check_eq_audit]
  refine ⟨?_, fun e => audit_eq_error_iff⟩
  rw [audit_eq_ok_iff]
  exact ⟨fun h rule => h rule (mem_rules rule), fun h rule _ => h rule⟩

/-- The port follows the last colon, and the zeros before its digits do not matter. -/
example : check { endpoint := "[::1]:+0000065535" } = .ok () := by decide +kernel

/-- Of two broken rules the earlier one is reported. -/
example : check { endpoint := "gw1:65536", maxPerPage := 0 } =
    .error (.misconfigured (.endpoint "gw1:65536")) := by decide +kernel

end Config

end EdgeCatalog
