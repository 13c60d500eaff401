import Mathlib
import EdgeCatalog.Proofs.Device.Refinement
import EdgeCatalog.Proofs.Json.Resolution
import EdgeCatalog.Proofs.Query.Outcome

/-! Queries that go through the resources of a device. All stored resources are written with the
same fields, since every one of them names its owner; so the first resource of a device has every
key that a later one has, and a path that goes on from the resources goes on in the first. -/
namespace EdgeCatalog

namespace Query

/-- The answer to a query as it is given. -/
def ask (path relation value : String) (tree : Json) : Except Error Bool :=
  (parse path relation value).bind (·.eval tree)

/-- Answers that differ in nothing but the path that an error names. -/
inductive Alike (path path' : String) : Except Error Bool → Except Error Bool → Prop
  | ok (hit : Bool) : Alike path path' (.ok hit) (.ok hit)
  | unknownRelation (name : String) : Alike path path'
    (.error (.invalid (.unknownRelation name))) (.error (.invalid (.unknownRelation name)))
  | notText (kind : Json.Kind) : Alike path path'
    (.error (.invalid (.notText path kind))) (.error (.invalid (.notText path' kind)))

theorem ask_of_ofName {path relation value : String} {r : Relation}
    (h : Relation.ofName relation = .ok r) (tree : Json) :
    ask path relation value tree = (⟨Text.segments '.' path, r, value⟩ : Query).eval tree := by
  rw [ask, parse, h]
  rfl

theorem ask_of_unknown {path relation value : String} {e : Error}
    (h : Relation.ofName relation = .error e) (tree : Json) :
    ask path relation value tree = .error (.invalid (.unknownRelation relation)) := by
  have hparse : parse path relation value = .error e := by
    rw [parse, h]
    rfl
  rw [ask, hparse, parse_error hparse]
  rfl

/-- Two paths that lead to the same thing, each in a tree of its own. -/
theorem alike_ask {path path' : String} {tree tree' : Json}
    (h : tree.resolve (Text.segments '.' path) = tree'.resolve (Text.segments '.' path'))
    (relation value : String) :
    Alike path path' (ask path relation value tree) (ask path' relation value tree') := by
  cases hname : Relation.ofName relation with
  | error e =>
    rw [ask_of_unknown hname, ask_of_unknown hname]
    exact .unknownRelation relation
  | ok r =>
    rw [ask_of_ofName hname, ask_of_ofName hname, eval, eval]
    dsimp only
    rw [← h, Text.joinSegments_segments, Text.joinSegments_segments]
    cases tree.resolve (Text.segments '.' path) with
    | none => exact .ok false
    | some node =>
      cases node with
      | null => exact .ok false
      | string candidate => exact .ok _
      | bool b => exact .notText _
      | number n => exact .notText _
      | array items => exact .notText _
      | object fields => exact .notText _

end Query

/-! ## The trees of devices and resources -/

/-- Resources that name their owners have the same fields. -/
theorem Resource.reaches_toJson {r r' : Resource} (hr : r.device ≠ "") (hr' : r'.device ≠ "")
    (key : String) : r.toJson.reaches key = r'.toJson.reaches key := by
  rw [toJson, toJson, if_neg hr, if_neg hr', Json.reaches_object, Json.reaches_object]
  rfl

/-- The resources of a device are under their key, if there are any. -/
theorem Device.resolve_resources (d : Device) (path : List String) :
    d.toJson.resolve ("resources" :: path) =
      if d.resources = [] then none
      else (Json.array (d.resources.map Resource.toJson)).resolve path := by
  rw [Json.resolve_cons, toJson, Json.objects, Json.field?_singleton]
  by_cases hempty : d.resources = []
  · cases d.expires <;> simp [Entries.find?, Record.expiresField, hempty]
  · cases d.expires <;> simp [Entries.find?, Record.expiresField, hempty]

theorem Device.resolve_first_resource {d : Device} {r : Resource} {rest : List Resource}
    (hd : d.resources = r :: rest) (howner : ∀ r ∈ d.resources, r.device ≠ "") (key : String)
    (path : List String) :
    d.toJson.resolve ("resources" :: key :: path) = r.toJson.resolve (key :: path) := by
  rw [hd] at howner
  obtain ⟨hr, hrest⟩ := List.forall_mem_cons.mp howner
  have hnone : d.resources ≠ [] := by
    rw [hd]
    exact List.cons_ne_nil r rest
  rw [Device.resolve_resources, if_neg hnone, hd, List.map_cons]
  refine Json.resolve_array_cons ?_ path
  intro item hitem hreaches
  obtain ⟨r', hr', rfl⟩ := List.mem_map.mp hitem
  rwa [Resource.reaches_toJson hr (hrest r' hr')]

theorem Text.segments_resources (path : String) :
    segments '.' ("resources." ++ path) = "resources" :: segments '.' path := by
  have hchars : ("resources." ++ path).toList = "resources".toList ++ '.' :: path.toList := by
    rw [String.toList_append]
    rfl
  have hwhole : '.' ∉ "resources".toList := by decide +kernel
  rw [segments, hchars, splitChars_append_cons hwhole, List.map_cons, String.ofList_toList,
    segments]

namespace DeviceStore

/-- Asked about its resources, a device with any answers what the first of them answers, and one
without does not match. -/
theorem Reachable.asks_first_resource {s : DeviceStore} (h : s.Reachable) {id : String} {d : Device}
    (hd : (s.get id).result = .ok d) (path relation value : String) :
    (∀ r rest, d.resources = r :: rest →
      Query.Alike path ("resources." ++ path) (Query.ask path relation value r.toJson)
        (Query.ask ("resources." ++ path) relation value d.toJson)) ∧
    (d.resources = [] → ∀ q, Query.parse ("resources." ++ path) relation value = .ok q →
      q.eval d.toJson = .ok false) ∧
    ∀ kind, ∃ front back, ∀ named,
      (Error.invalid (.notText named kind)).message = front ++ named ++ back := by
  rw [result_get_eq_ok_iff h.stands] at hd
  have hstorable := h.stands.rows.storable hd
  have howner : ∀ r ∈ d.resources, r.device ≠ "" := by
    intro r hr
    rw [(hstorable.owned r hr).1]
    exact hstorable.isRecord.ne_empty
  refine ⟨fun r rest hfirst => ?_, fun hnone q hq => ?_, fun kind => ?_⟩
  · refine Query.alike_ask ?_ relation value
    -- there is a part left after the resources, even if it is empty
    obtain ⟨key, keys, hkeys⟩ := List.exists_cons_of_ne_nil (Text.segments_ne_nil '.' path)
    rw [Text.segments_resources, hkeys, Device.resolve_first_resource hfirst howner]
  · obtain ⟨r, -, rfl⟩ := Query.parse_eq_ok_iff.mp hq
    rw [Query.eval, Text.segments_resources, Device.resolve_resources, if_pos hnone]
  · refine ⟨"Validation error: path ", " resolves to a non-string value (" ++ kind.name ++ ")", ?_⟩
    intro named
    rw [Query.message_notText]
    simp only [String.append_assoc]

/-- The second resource of `a/b` is not asked, `meta` is no text in either of them, and `a/c` has
none. -/
theorem asks_first_resource_only :
    let s := run {} [
      .record (.add .epoch {
        id := "a/b", ttl := -1,
        resources := [{ id := "a/b/y", name := "y" }, { id := "a/b/x", name := "x" }] }),
      .record (.add .epoch { id := "a/c", ttl := -1 })]
    let d : Device := {
      id := "a/b", ttl := -1, resources := [
        { id := "a/b/y", name := "y", device := "a/b" },
        { id := "a/b/x", name := "x", device := "a/b" }] }
    let bare : Device := { id := "a/c", ttl := -1 }
    ((s.get "a/b").result = .ok d ∧ (s.get "a/c").result = .ok bare) ∧
    Query.Alike "name" "resources.name" (.ok false)
      (Query.ask "resources.name" "equals" "x" d.toJson) ∧
    Query.Alike "meta" "resources.meta" (.error (.invalid (.notText "meta" .object)))
      (Query.ask "resources.meta" "equals" "x" d.toJson) ∧
    (⟨["resources", "name"], .equals, "x"⟩ : Query).eval bare.toJson = .ok false := by
  intro s d bare
  have hs : s.Reachable := ⟨100, _, rfl⟩
  have hd : (s.get "a/b").result = .ok d := by rfl
  have hbare : (s.get "a/c").result = .ok bare := by rfl
  obtain ⟨hname, -⟩ := hs.asks_first_resource hd "name" "equals" "x"
  obtain ⟨hmeta, -⟩ := hs.asks_first_resource hd "meta" "equals" "x"
  obtain ⟨-, hnone, -⟩ := hs.asks_first_resource hbare "name" "equals" "x"
  exact ⟨⟨hd, hbare⟩, hname _ _ rfl, hmeta _ _ rfl, hnone rfl _ (by decide +kernel)⟩

end DeviceStore

end EdgeCatalog
