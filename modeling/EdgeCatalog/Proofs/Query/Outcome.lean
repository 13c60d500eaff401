import Mathlib
import EdgeCatalog.Proofs.Id.Grammar
import EdgeCatalog.Proofs.Query

/-! What a query says of a tree. The name of a relation is all that can be wrong with a query. One
that is parsed is answered from what its path leads to: nothing and `null` do not match, a text
matches when it is made up of the text of the query as the relation has it, and anything else is an
error that names the path as it was given. -/
namespace EdgeCatalog

namespace Text

/-! ## Parts of a text -/

/-- The parts of a text between its separators. -/
structure Cut (sep : Char) (s : String) (parts : List String) : Prop where
  nonempty : parts ≠ []
  /-- No separator is left in a part. -/
  whole : ∀ part ∈ parts, sep ∉ part.toList
  /-- With one separator between neighbours they are the text again. -/
  joined : joinSegments sep parts = s

theorem splitChars_joinChars {sep : Char} {parts : List (List Char)} (hne : parts ≠ [])
    (h : ∀ part ∈ parts, sep ∉ part) : splitChars sep (joinChars sep parts) = parts := by
  induction parts with
  | nil => exact absurd rfl hne
  | cons part others ih =>
    obtain ⟨hpart, hothers⟩ := List.forall_mem_cons.mp h
    cases others with
    | nil => exact splitChars_of_notMem hpart
    | cons next rest =>
      rw [joinChars, splitChars_append_cons hpart, ih (List.cons_ne_nil next rest) hothers]
      exact List.cons_ne_nil next rest

theorem segments_joinSegments {sep : Char} {parts : List String} (hne : parts ≠ [])
    (h : ∀ part ∈ parts, sep ∉ part.toList) : segments sep (joinSegments sep parts) = parts := by
  have hchars : ∀ part ∈ parts.map String.toList, sep ∉ part := by
    intro part hpart
    obtain ⟨text, htext, rfl⟩ := List.mem_map.mp hpart
    exact h text htext
  rw [segments, joinSegments, String.toList_ofList,
    splitChars_joinChars (List.map_eq_nil_iff.not.mpr hne) hchars, List.map_map]
  exact (List.map_congr_left fun _ _ => String.ofList_toList).trans (List.map_id _)

theorem segments_ne_nil (sep : Char) (s : String) : segments sep s ≠ [] :=
  List.map_eq_nil_iff.not.mpr (splitChars_ne_nil sep s.toList)

/-- There is one way to cut a text. -/
theorem cut_iff {sep : Char} {s : String} {parts : List String} :
    Cut sep s parts ↔ parts = segments sep s := by
  constructor
  · rintro ⟨hne, hwhole, rfl⟩
    exact (segments_joinSegments hne hwhole).symm
  · rintro rfl
    refine ⟨segments_ne_nil sep s, ?_, joinSegments_segments sep s⟩
    intro part hpart
    obtain ⟨chars, hchars, rfl⟩ := List.mem_map.mp hpart
    rw [String.toList_ofList]
    exact notMem_of_mem_splitChars hchars

end Text

namespace Relation

/-! ## Relations and their names -/

/-- The names of the relations. -/
def names : List String :=
  ["equals", "prefix", "suffix", "contains"]

theorem name_mem_names (r : Relation) : r.name ∈ names := by
  cases r with
  | equals => exact List.mem_cons_self
  | startsWith => simp [names, name]
  | endsWith => simp [names, name]
  | contains => simp [names, name]

theorem ofName_name (r : Relation) : ofName r.name = .ok r := by
  cases r with
  | equals => rfl
  | startsWith => rfl
  | endsWith => rfl
  | contains => rfl

/-- A name that is read is the name of what it is read as. -/
theorem name_of_ofName {name : String} {r : Relation} (h : ofName name = .ok r) :
    r.name = name := by
  rw [ofName] at h
  split_ifs at h with hequals hstarts hends hcontains
  · rw [← Except.ok.inj h, hequals, Relation.name]
  · rw [← Except.ok.inj h, hstarts, Relation.name]
  · rw [← Except.ok.inj h, hends, Relation.name]
  · rw [← Except.ok.inj h, hcontains, Relation.name]

theorem exists_name_of_mem {name : String} (h : name ∈ names) : ∃ r : Relation, r.name = name := by
  rw [names] at h
  simp only [List.mem_cons, List.not_mem_nil, or_false] at h
  obtain rfl | rfl | rfl | rfl := h
  · exact ⟨.equals, rfl⟩
  · exact ⟨.startsWith, rfl⟩
  · exact ⟨.endsWith, rfl⟩
  · exact ⟨.contains, rfl⟩

/-- How a text is made up of the text that it is compared with. -/
def Relates (r : Relation) (candidate value : String) : Prop :=
  match r with
  | .equals => candidate = value
  | .startsWith => ∃ rest, candidate = value ++ rest
  | .endsWith => ∃ front, candidate = front ++ value
  | .contains => ∃ front rest, candidate = front ++ value ++ rest

theorem occursIn_iff {part cs : List Char} : occursIn part cs = true ↔ part <:+: cs := by
  induction cs with
  | nil => rw [occursIn, List.isEmpty_iff, List.infix_nil]
  | cons c rest ih =>
    rw [occursIn, Bool.or_eq_true, List.isPrefixOf_iff_prefix, ih, List.infix_cons_iff]

theorem holds_iff {r : Relation} {candidate value : String} :
    r.holds candidate value = true ↔ r.Relates candidate value := by
  cases r with
  | equals => exact decide_eq_true_iff
  | startsWith =>
    rw [holds, List.isPrefixOf_iff_prefix, Relates]
    constructor
    · rintro ⟨rest, hrest⟩
      refine ⟨String.ofList rest, String.toList_inj.mp ?_⟩
      rw [String.toList_append, String.toList_ofList, hrest]
    · rintro ⟨rest, rfl⟩
      exact ⟨rest.toList, String.toList_append.symm⟩
  | endsWith =>
    rw [holds, List.isSuffixOf_iff_suffix, Relates]
    constructor
    · rintro ⟨front, hfront⟩
      refine ⟨String.ofList front, String.toList_inj.mp ?_⟩
      rw [String.toList_append, String.toList_ofList, hfront]
    · rintro ⟨front, rfl⟩
      exact ⟨front.toList, String.toList_append.symm⟩
  | contains =>
    rw [holds, occursIn_iff, Relates]
    constructor
    · rintro ⟨front, rest, hfound⟩
      refine ⟨String.ofList front, String.ofList rest, String.toList_inj.mp ?_⟩
      rw [String.toList_append, String.toList_append, String.toList_ofList, String.toList_ofList,
        hfound]
    · rintro ⟨front, rest, rfl⟩
      refine ⟨front.toList, rest.toList, ?_⟩
      rw [String.toList_append, String.toList_append]

end Relation

namespace Query

variable {q : Query} {path name value : String} {tree : Json}

/-! ## Parsing -/

theorem parse_eq_ok_iff : parse path name value = .ok q ↔
    ∃ r : Relation, r.name = name ∧ q = ⟨Text.segments '.' path, r, value⟩ := by
  constructor
  · intro h
    rw [parse] at h
    cases hname : Relation.ofName name with
    | error e =>
      rw [hname] at h
      cases h
    | ok r =>
      rw [hname] at h
      exact ⟨r, Relation.name_of_ofName hname, (Except.ok.inj h).symm⟩
  · rintro ⟨r, rfl, rfl⟩
    rw [parse, Relation.ofName_name]
    rfl

/-- A query whose relation is known is parsed, whatever its path. -/
theorem parse_of_mem_names (h : name ∈ Relation.names) (path value : String) :
    ∃ q, parse path name value = .ok q := by
  obtain ⟨r, hr⟩ := Relation.exists_name_of_mem h
  exact ⟨_, parse_eq_ok_iff.mpr ⟨r, hr, rfl⟩⟩

theorem mem_names_of_parse (h : parse path name value = .ok q) : name ∈ Relation.names := by
  obtain ⟨r, rfl, -⟩ := parse_eq_ok_iff.mp h
  exact r.name_mem_names

theorem parse_eq_error_iff {e : Error} : parse path name value = .error e ↔
    name ∉ Relation.names ∧ e = .invalid (.unknownRelation name) := by
  constructor
  · intro h
    refine ⟨fun hname => ?_, parse_error h⟩
    obtain ⟨q, hq⟩ := parse_of_mem_names hname path value
    rw [hq] at h
    cases h
  · rintro ⟨hname, rfl⟩
    cases hparse : parse path name value with
    | ok q => exact absurd (mem_names_of_parse hparse) hname
    | error e => rw [parse_error hparse]

/-! ## Answering -/

/-- What a query says of what its path leads to, if it leads anywhere. -/
inductive Says (path : String) (r : Relation) (value : String) :
    Option Json → Except Error Bool → Prop
  | nowhere : Says path r value none (.ok false)
  | null : Says path r value (some .null) (.ok false)
  | text {candidate : String} {hit : Bool} (hhit : hit = true ↔ r.Relates candidate value) :
    Says path r value (some (.string candidate)) (.ok hit)
  /-- The error has the path as it was given, and the kind of what it leads to. -/
  | other {node : Json} (hnull : node.kind ≠ .null) (htext : node.kind ≠ .string) :
    Says path r value (some node) (.error (.invalid (.notText path node.kind)))

theorem says_eval (path : String) (r : Relation) (value : String) (tree : Json) :
    let parts := Text.segments '.' path
    Says path r value (tree.resolve parts) ((⟨parts, r, value⟩ : Query).eval tree) := by
  dsimp only
  rw [eval]
  dsimp only
  generalize tree.resolve (Text.segments '.' path) = found
  rw [Text.joinSegments_segments]
  cases found with
  | none => exact .nowhere
  | some node =>
    cases node with
    | null => exact .null
    | string candidate => exact .text Relation.holds_iff
    | bool b => exact .other (by simp [Json.kind]) (by simp [Json.kind])
    | number n => exact .other (by simp [Json.kind]) (by simp [Json.kind])
    | array items => exact .other (by simp [Json.kind]) (by simp [Json.kind])
    | object fields => exact .other (by simp [Json.kind]) (by simp [Json.kind])

/-- One thing is said. -/
theorem Says.unique {r : Relation} {found : Option Json} {outcome other : Except Error Bool}
    (h : Says path r value found outcome) (h' : Says path r value found other) :
    outcome = other := by
  cases h with
  | nowhere =>
    cases h'
    rfl
  | null =>
    cases h' with
    | null => rfl
    | other hnull _ => exact absurd rfl hnull
  | text hhit =>
    cases h' with
    | text hhit' => rw [Bool.eq_iff_iff.mpr (hhit.trans hhit'.symm)]
    | other _ htext => exact absurd rfl htext
  | other hnull htext =>
    cases h' with
    | null => exact absurd rfl hnull
    | text _ => exact absurd rfl htext
    | other _ _ => rfl

theorem eval_eq_iff (path : String) (r : Relation) (value : String) (tree : Json)
    (outcome : Except Error Bool) :
    let parts := Text.segments '.' path
    (⟨parts, r, value⟩ : Query).eval tree = outcome ↔
      Says path r value (tree.resolve parts) outcome := by
  have hsays := says_eval path r value tree
  constructor
  · rintro rfl
    exact hsays
  · exact hsays.unique

theorem message_notText (path : String) (kind : Json.Kind) :
    (Error.invalid (.notText path kind)).message =
      "Validation error: path " ++ path ++ " resolves to a non-string value (" ++ kind.name ++
        ")" := by
  have hjoin : "Validation error: path " = "Validation error: " ++ "path " := by decide +kernel
  show "Validation error: " ++
    ("path " ++ path ++ " resolves to a non-string value (" ++ kind.name ++ ")") = _
  rw [hjoin]
  simp only [String.append_assoc]

/-- A query is refused just when its relation has no such name, whatever its path. Else the path is
cut at every point, and what is said of a tree depends on what the parts lead to in it. -/
theorem query_outcome (path name value : String) :
    (∀ e, parse path name value = .error e ↔
      name ∉ Relation.names ∧ e = .invalid (.unknownRelation name)) ∧
    (∀ q, parse path name value = .ok q →
      ∃ parts r, Text.Cut '.' path parts ∧ r.name = name ∧
        ∀ tree outcome, q.eval tree = outcome ↔ Says path r value (tree.resolve parts) outcome) ∧
    ∀ kind : Json.Kind, (Error.invalid (.notText path kind)).message =
      "Validation error: path " ++ path ++ " resolves to a non-string value (" ++ kind.name ++
        ")" := by
  refine ⟨fun e => parse_eq_error_iff, fun q hq => ?_, fun kind => ?_⟩
  · obtain ⟨r, hname, rfl⟩ := parse_eq_ok_iff.mp hq
    exact ⟨Text.segments '.' path, r, Text.cut_iff.mpr rfl, hname, eval_eq_iff path r value⟩
  · exact message_notText path kind

/-- A point at the end makes an empty last part, which is a key like any other, and the message has
the path with that point. No relation begins with a capital. -/
theorem query_outcome_trailing_point :
    let tree := Json.object [("a", .array [.null, .object [("", .number (.int 5))]])]
    let q : Query := ⟨["a", ""], .contains, ""⟩
    parse "a." "contains" "" = .ok q ∧
      q.eval tree = .error (.invalid (.notText "a." .number)) ∧
      (Error.invalid (.notText "a." .number)).message =
        "Validation error: path a. resolves to a non-string value (number)" ∧
      parse "a." "Contains" "" = .error (.invalid (.unknownRelation "Contains")) := by
  intro tree q
  obtain ⟨-, hanswers, hmessage⟩ := query_outcome "a." "contains" ""
  obtain ⟨hrefused, -, -⟩ := query_outcome "a." "Contains" ""
  have hq : parse "a." "contains" "" = .ok q := by decide +kernel
  obtain ⟨parts, r, hparts, -, heval⟩ := hanswers q hq
  obtain rfl : parts = ["a", ""] := (Text.cut_iff.mp hparts).trans (by decide +kernel)
  have hfound : tree.resolve ["a", ""] = some (.number (.int 5)) := rfl
  refine ⟨hq, ?_, (hmessage .number).trans (by decide +kernel), (hrefused _).mpr ?_⟩
  · rw [heval, hfound]
    exact .other (by simp [Json.kind]) (by simp [Json.kind])
  · exact ⟨by decide +kernel, rfl⟩

end Query

end EdgeCatalog
