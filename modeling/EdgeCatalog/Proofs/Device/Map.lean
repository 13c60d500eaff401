import Mathlib
import EdgeCatalog.Record.Device
import EdgeCatalog.Proofs.Id.Grammar
import EdgeCatalog.Proofs.Table

/-! The device store as a plain map from ids to whole devices. Each operation is given by its result
and the map it leaves; there are no rows, no resource table and no index here. -/
namespace EdgeCatalog.DeviceMap

/-! ## The resources of a device -/

/-- Ids under which a device may own resources: its own id and a name, and no id twice. -/
def OwnIds (owner : String) (ids : List String) : Prop :=
  (∀ id ∈ ids, Id.IsResource owner id) ∧ ids.Nodup

instance (owner : String) (ids : List String) : Decidable (OwnIds owner ids) :=
  inferInstanceAs (Decidable (_ ∧ _))

/-- What is wrong with the first id that a device may not own a resource under, the ids seen
`earlier` being used up. -/
def fault? (owner : String) : List String → List String → Option Invalid
  | _, [] => none
  | earlier, id :: rest =>
    if ¬Id.IsResource owner id then some (.resourceId id owner)
    else if id ∈ earlier then some (.resourceTwice id owner)
    else fault? owner (id :: earlier) rest

theorem fault?_eq_none_iff {owner : String} {earlier ids : List String} :
    fault? owner earlier ids = none ↔
      (∀ id ∈ ids, Id.IsResource owner id ∧ id ∉ earlier) ∧ ids.Nodup := by
  induction ids generalizing earlier with
  | nil => simp [fault?]
  | cons id rest ih =>
    rw [fault?]
    by_cases hname : Id.IsResource owner id
    · rw [if_neg (not_not_intro hname)]
      by_cases hseen : id ∈ earlier
      · rw [if_pos hseen]
        simp [hseen]
      · rw [if_neg hseen, ih, List.nodup_cons, List.forall_mem_cons]
        constructor
        · rintro ⟨hrest, hd⟩
          refine ⟨⟨⟨hname, hseen⟩, fun other ho => ?_⟩, fun hin => ?_, hd⟩
          · obtain ⟨hother, hfresh⟩ := hrest other ho
            exact ⟨hother, fun he => hfresh (List.mem_cons_of_mem _ he)⟩
          · exact (hrest id hin).2 List.mem_cons_self
        · rintro ⟨⟨-, hrest⟩, hin, hd⟩
          refine ⟨fun other ho => ⟨(hrest other ho).1, fun he => ?_⟩, hd⟩
          rcases List.mem_cons.mp he with rfl | he
          · exact hin ho
          · exact (hrest other ho).2 he
    · rw [if_pos hname]
      simp [hname]

theorem fault?_isSome_iff {owner : String} {ids : List String} :
    (fault? owner [] ids).isSome = true ↔ ¬OwnIds owner ids := by
  rw [Option.isSome_iff_ne_none, Ne, fault?_eq_none_iff, OwnIds]
  simp

/-- Why a device may not own resources under the given ids: the first fault counts. -/
def firstFault (owner : String) (ids : List String) (h : ¬OwnIds owner ids) : Invalid :=
  (fault? owner [] ids).get (fault?_isSome_iff.mpr h)

/-! ## Operations -/

/-- A device as it is kept: under an id, with the time of its creation, the time of the last update
and the expiry, and as the owner of its resources, whoever they name as such. -/
def stamped (id : String) (created now : Instant) (expires : Option Instant) (d : Device) :
    Device :=
  { d with
    id, created, updated := now, expires,
    resources := d.resources.map fun r => { r with device := id } }

variable (m : Table Device)

def add (now : Instant) (d : Device) : Except Error Device × Table Device :=
  if Id.IsRecord d.id then
    match Expiry.expiryFor now d.ttl with
    | .error _ => (.error (.invalid (.ttlRange d.ttl.toInt)), m)
    | .ok expires =>
      if m.contains d.id then (.error (.invalid (.deviceExists d.id)), m)
      else if h : OwnIds d.id (d.resources.map (·.id)) then
        (.ok (stamped d.id now now expires d), m.insert d.id (stamped d.id now now expires d))
      else (.error (.invalid (firstFault _ _ h)), m)
  else (.error (.invalid (.recordId d.id)), m)

def update (now : Instant) (id : String) (d : Device) : Except Error Device × Table Device :=
  match Expiry.expiryFor now d.ttl with
  | .error _ => (.error (.invalid (.ttlRange d.ttl.toInt)), m)
  | .ok expires =>
    match m.get? id with
    | none => (.error (.missing (.entry id)), m)
    | some old =>
      if h : OwnIds id (d.resources.map (·.id)) then
        (.ok (stamped id old.created now expires d),
          m.insert id (stamped id old.created now expires d))
      else (.error (.invalid (firstFault _ _ h)), m)

def delete (id : String) : Except Error Device × Table Device :=
  match m.get? id with
  | none => (.error (.missing (.entry id)), m)
  | some d => (.ok d, m.erase id)

/-- How many devices have expired, and the map without them. -/
def cleanExpired (now : Instant) : Nat × Table Device :=
  ((m.filter (·.isExpired now)).size, m.filter (!·.isExpired now))

def get (id : String) : Except Error Device :=
  match m.get? id with
  | none => .error (.missing (.entry id))
  | some d => .ok d

/-- The resources of all devices. -/
def resources : List Resource :=
  m.values.flatMap (·.resources)

def getResource (id : String) : Except Error Resource :=
  match (resources m).find? (·.id = id) with
  | none => .error (.missing (.entry id))
  | some r => .ok r

theorem get_eq_ok_iff {m : Table Device} {id : String} {d : Device} :
    get m id = .ok d ↔ m.get? id = some d := by
  rw [get]
  cases m.get? id <;> simp

/-! ## What writing can do -/

/-- An addition is refused, or puts the stamped device in. -/
theorem add_cases (m : Table Device) (now : Instant) (d : Device) :
    (∃ e, add m now d = (.error e, m)) ∨
      ∃ expires, Expiry.expiryFor now d.ttl = .ok expires ∧ Id.IsRecord d.id ∧
        OwnIds d.id (d.resources.map (·.id)) ∧
        add m now d = (.ok (stamped d.id now now expires d),
          m.insert d.id (stamped d.id now now expires d)) := by
  rw [add]
  by_cases hid : Id.IsRecord d.id
  · rw [if_pos hid]
    cases hexpires : Expiry.expiryFor now d.ttl with
    | error e => exact .inl ⟨_, rfl⟩
    | ok expires =>
      dsimp only
      by_cases hin : m.contains d.id = true
      · rw [if_pos hin]
        exact .inl ⟨_, rfl⟩
      · rw [if_neg hin]
        by_cases hown : OwnIds d.id (d.resources.map (·.id))
        · rw [dif_pos hown]
          exact .inr ⟨expires, rfl, hid, hown, rfl⟩
        · rw [dif_neg hown]
          exact .inl ⟨_, rfl⟩
  · rw [if_neg hid]
    exact .inl ⟨_, rfl⟩

/-- An update is refused, or puts the stamped device in the place of the old one. -/
theorem update_cases (m : Table Device) (now : Instant) (id : String) (d : Device) :
    (∃ e, update m now id d = (.error e, m)) ∨
      ∃ expires old, Expiry.expiryFor now d.ttl = .ok expires ∧ m.get? id = some old ∧
        OwnIds id (d.resources.map (·.id)) ∧
        update m now id d = (.ok (stamped id old.created now expires d),
          m.insert id (stamped id old.created now expires d)) := by
  rw [update]
  cases hexpires : Expiry.expiryFor now d.ttl with
  | error e => exact .inl ⟨_, rfl⟩
  | ok expires =>
    dsimp only
    cases hold : m.get? id with
    | none => exact .inl ⟨_, rfl⟩
    | some old =>
      dsimp only
      by_cases hown : OwnIds id (d.resources.map (·.id))
      · rw [dif_pos hown]
        exact .inr ⟨expires, old, rfl, rfl, hown, rfl⟩
      · rw [dif_neg hown]
        exact .inl ⟨_, rfl⟩

/-- A deletion is refused, or takes the device out. -/
theorem delete_cases (m : Table Device) (id : String) :
    (∃ e, delete m id = (.error e, m)) ∨
      ∃ d, m.get? id = some d ∧ delete m id = (.ok d, m.erase id) := by
  rw [delete]
  cases m.get? id with
  | none => exact .inl ⟨_, rfl⟩
  | some d => exact .inr ⟨d, rfl, rfl⟩

end EdgeCatalog.DeviceMap
