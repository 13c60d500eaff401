import Mathlib
import EdgeCatalog.Config.Basic
import EdgeCatalog.Record.Device
import EdgeCatalog.Proofs.Instant.Text

/-! Records and configurations are read back from the trees they are written as
(`records_round_trip`). Each kind of value has a lemma on its own reader, and a record is read field
by field; a field that is left out is one that its default stands for. -/
namespace EdgeCatalog

/-! ## Values -/

@[simp] theorem Json.asString?_string (s : String) : asString? (.string s) = some s := rfl

@[simp] theorem Json.asBool?_bool (b : Bool) : asBool? (.bool b) = some b := rfl

/-- A list is read back when each of its items is. -/
theorem Json.asList?_map {α : Type} {item? : Json → Option α} {write : α → Json}
    (h : ∀ a, item? (write a) = some a) (items : List α) :
    asList? item? (.array (items.map write)) = some items := by
  have hall : (items.map write).mapM item? = some items := by
    induction items with
    | nil => rfl
    | cons a rest ih => simp [h, ih]
  simp [asList?, asArray?, hall]

@[simp] theorem Json.asList?_ofStrings (texts : List String) :
    asList? asString? (ofStrings texts) = some texts :=
  asList?_map asString?_string texts

namespace Record

@[simp] theorem int64?_ofInt (n : Int64) : int64? (.ofInt n.toInt) = some n := by
  have hlow : -9223372036854775808 ≤ n.toInt := n.le_toInt
  have hhigh : n.toInt ≤ 9223372036854775807 := Int.lt_add_one_iff.mp n.toInt_lt
  have hasInt : (Json.ofInt n.toInt).asInt? = some n.toInt := rfl
  rw [int64?, hasInt, Option.bind_eq_bind, Option.bind_some, if_pos ⟨hlow, hhigh⟩,
    Int64.ofInt_toInt]

@[simp] theorem uint64?_ofNat (n : UInt64) : uint64? (.ofNat n.toNat) = some n := by
  have hlow : (0 : Int) ≤ n.toNat := Int.natCast_nonneg _
  have hhigh : (n.toNat : Int) < UInt64.size := Int.ofNat_lt.mpr n.toNat_lt_size
  have hasInt : (Json.ofNat n.toNat).asInt? = some (n.toNat : Int) := rfl
  rw [uint64?, hasInt, Option.bind_eq_bind, Option.bind_some, if_pos ⟨hlow, hhigh⟩,
    Int.toNat_natCast, UInt64.ofNat_toNat]

@[simp] theorem instant?_ofInstant (t : Instant) : instant? (ofInstant t) = some t := by
  simp [instant?, ofInstant]

@[simp] theorem optionalInstant?_ofInstant (t : Instant) :
    optionalInstant? (ofInstant t) = some (some t) := by
  have hread : optionalInstant? (ofInstant t) = (instant? (ofInstant t)).map some := rfl
  rw [hread, instant?_ofInstant, Option.map_some]

end Record

namespace Config

@[simp] theorem choice?_string {α : Type} (ofName? : String → Option α) (name : String) :
    choice? ofName? (.string name) = ofName? name := rfl

end Config

@[simp] theorem CatalogKind.ofName?_name (kind : CatalogKind) : ofName? kind.name = some kind := by
  cases kind <;> rfl

@[simp] theorem Storage.ofName?_name (storage : Storage) : ofName? storage.name = some storage := by
  cases storage
  rfl

/-! ## Records -/

open Record

@[simp] theorem Protocol.ofJson?_toJson (p : Protocol) : ofJson? p.toJson = some p := by
  simp [ofJson?, toJson, hasShape, field?, given]

@[simp] theorem Resource.ofJson?_toJson (r : Resource) : ofJson? r.toJson = some r := by
  have hprotocols := Json.asList?_map Protocol.ofJson?_toJson r.protocols
  by_cases h : r.device = ""
  · simp [ofJson?, toJson, hasShape, field?, given, hprotocols, h]
    rw [← h]
  · simp [ofJson?, toJson, hasShape, field?, given, hprotocols, h]

/-- The expiry is written or not, and so are the resources: four forms in all. -/
@[simp] theorem Device.ofJson?_toJson (d : Device) : ofJson? d.toJson = some d := by
  obtain ⟨id, type, name, metadata, description, ttl, created, updated, expires, resources⟩ := d
  have hresources := Json.asList?_map Resource.ofJson?_toJson resources
  cases expires with
  | none =>
    by_cases h : resources = []
    · simp [ofJson?, toJson, hasShape, field?, given, expiresField, h]
    · simp [ofJson?, toJson, hasShape, field?, given, expiresField, h, hresources]
  | some expiry =>
    by_cases h : resources = []
    · simp [ofJson?, toJson, hasShape, field?, given, expiresField, h]
    · simp [ofJson?, toJson, hasShape, field?, given, expiresField, h, hresources]

@[simp] theorem Service.ofJson?_toJson (s : Service) : ofJson? s.toJson = some s := by
  have hprotocols := Json.asList?_map Protocol.ofJson?_toJson s.protocols
  obtain ⟨id, type, name, description, metadata, protocols, representation, ttl, created, updated,
    expires⟩ := s
  cases expires with
  | none => simp [ofJson?, toJson, hasShape, field?, given, expiresField, hprotocols]
  | some expiry => simp [ofJson?, toJson, hasShape, field?, given, expiresField, hprotocols]

@[simp] theorem Config.ofJson?_toJson (c : Config) : ofJson? c.toJson = some c := by
  simp [ofJson?, toJson, hasShape, field?, given]

/-! ## What is left out -/

theorem Resource.device_left_out (r : Resource) :
    r.toJson.get? "device" = none ↔ r.device = "" := by
  by_cases h : r.device = "" <;> simp [toJson, Json.get?, Entries.find?, h]

theorem Device.expires_left_out (d : Device) :
    d.toJson.get? "expires" = none ↔ d.expires = none := by
  by_cases h : d.resources = [] <;> cases he : d.expires <;>
    simp [toJson, Json.get?, Entries.find?, expiresField, h, he]

theorem Device.resources_left_out (d : Device) :
    d.toJson.get? "resources" = none ↔ d.resources = [] := by
  by_cases h : d.resources = [] <;> cases he : d.expires <;>
    simp [toJson, Json.get?, Entries.find?, expiresField, h, he]

theorem Service.expires_left_out (s : Service) :
    s.toJson.get? "expires" = none ↔ s.expires = none := by
  cases he : s.expires <;> simp [toJson, Json.get?, Entries.find?, expiresField, he]

/-! ## All of them -/

/-- Whatever is written as a tree is read back as it was. A resource without an owner, a record
without an expiry and a device without resources leave the field out. -/
theorem records_round_trip :
    (∀ p : Protocol, Protocol.ofJson? p.toJson = some p) ∧
    (∀ r : Resource, Resource.ofJson? r.toJson = some r ∧
      (r.toJson.get? "device" = none ↔ r.device = "")) ∧
    (∀ d : Device, Device.ofJson? d.toJson = some d ∧
      (d.toJson.get? "expires" = none ↔ d.expires = none) ∧
      (d.toJson.get? "resources" = none ↔ d.resources = [])) ∧
    (∀ s : Service, Service.ofJson? s.toJson = some s ∧
      (s.toJson.get? "expires" = none ↔ s.expires = none)) ∧
    (∀ c : Config, Config.ofJson? c.toJson = some c) :=
  ⟨Protocol.ofJson?_toJson, fun r => ⟨r.ofJson?_toJson, r.device_left_out⟩,
    fun d => ⟨d.ofJson?_toJson, d.expires_left_out, d.resources_left_out⟩,
    fun s => ⟨s.ofJson?_toJson, s.expires_left_out⟩, Config.ofJson?_toJson⟩

end EdgeCatalog
