import EdgeCatalog.Record.Device
import EdgeCatalog.Id
import EdgeCatalog.Index

/-! The tables of the device store. A device and its resources are kept apart: the device row lists
the ids of its resources in order. Two indexes are derived from the rows: the ids of the devices,
and the paging units, which are the ids of the resources and of the devices without any. -/
namespace EdgeCatalog

/-- A device without its resources, and their ids. -/
structure StoredDevice where
  device : Device
  resourceIds : List String

structure DeviceTables where
  devices : Table StoredDevice := ∅
  resources : Table Resource := ∅
  index : Index := ∅
  units : Index := ∅

namespace DeviceTables

instance : Inhabited DeviceTables := ⟨{}⟩

/-- The ids of the devices that list no resources. -/
def bareIds (t : DeviceTables) : List String :=
  (t.devices.entries.filter (·.2.resourceIds.isEmpty)).map Prod.fst

/-- Derives both indexes from the rows. -/
def reindex (t : DeviceTables) : DeviceTables :=
  { t with
    index := t.index.rebuild t.devices.keys
    units := t.units.rebuild (t.resources.keys ++ t.bareIds) }

/-- Checks resources that a device is about to own, in order: the id, whether it was `seen`
before, and whether another device owns it. -/
def checkResources (t : DeviceTables) (owner : String) :
    List String → List Resource → Except Error Unit
  | _, [] => .ok ()
  | seen, r :: rest =>
    match Id.checkResource r.id owner with
    | .error e => .error e
    | .ok () =>
      if r.id ∈ seen then .error (.invalid (.resourceTwice r.id owner))
      else match t.resources.get? r.id with
        | some existing =>
          if existing.device ≠ owner then
            .error (.invalid (.resourceTaken r.id existing.device))
          else checkResources t owner (r.id :: seen) rest
        | none => checkResources t owner (r.id :: seen) rest

/-- Stores a device and its resources; the indexes are left as they were. -/
def insert (t : DeviceTables) (d : Device) : DeviceTables :=
  { t with
    devices := t.devices.insert d.id ⟨{ d with resources := [] }, d.resources.map (·.id)⟩
    resources := d.resources.foldl (fun rows r => rows.insert r.id r) t.resources }

/-- Takes a device and its resources out; the indexes are left as they were. -/
def remove (t : DeviceTables) (id : String) : Option (Device × DeviceTables) :=
  (t.devices.get? id).map fun stored =>
    ({ stored.device with
        resources := stored.device.resources ++ stored.resourceIds.filterMap t.resources.get? },
      { t with
        devices := t.devices.erase id
        resources := stored.resourceIds.foldl Table.erase t.resources })

/-- The resources of a device row. -/
def resourcesOf (t : DeviceTables) (id : String) : List String → Except Error (List Resource)
  | [] => .ok []
  | rid :: rest =>
    match t.resources.get? rid with
    | none => .error (.inconsistent (.resourceRow id rid))
    | some r => (resourcesOf t id rest).map (r :: ·)

/-- A stored device together with its resources. -/
def assemble (t : DeviceTables) (id : String) : Except Error Device :=
  match t.devices.get? id with
  | none => .error (.missing (.entry id))
  | some stored =>
    (t.resourcesOf id stored.resourceIds).map fun resources => { stored.device with resources }

/-- Devices gathered so far, under their ids. -/
abbrev Gathered := List (String × Device)

/-- Gives a resource to the device of that id. -/
def Gathered.give (owner : String) (r : Resource) : Gathered → Gathered
  | [] => []
  | (id, d) :: rest =>
    if id = owner then (id, { d with resources := d.resources ++ [r] }) :: rest
    else (id, d) :: give owner r rest

/-- Makes sure that the owner is gathered, and gives it the resource, if there is one. -/
def gather (t : DeviceTables) (found : Gathered) (owner : String) (resource : Option Resource) :
    Except Error Gathered :=
  let give (found : Gathered) : Gathered :=
    match resource with
    | some r => Gathered.give owner r found
    | none => found
  if found.any (·.1 = owner) then .ok (give found)
  else match t.devices.get? owner with
    | none => .error (.inconsistent (.ownerRow owner))
    | some stored => .ok (give (found ++ [(owner, { stored.device with resources := [] })]))

def gatherAll (t : DeviceTables) (found : Gathered) :
    List (String × Option Resource) → Except Error Gathered
  | [] => .ok found
  | (owner, resource) :: rest =>
    match t.gather found owner resource with
    | .error e => .error e
    | .ok found => t.gatherAll found rest

/-- Groups resources under their owners, in the order in which the owners first appear. -/
def reconcile (t : DeviceTables) (units : List (String × Option Resource)) :
    Except Error (List Device) :=
  (t.gatherAll [] units).map fun found => found.map Prod.snd

/-- A paging unit as an owner with or without a resource. -/
def unitOf (t : DeviceTables) (key : String) : Except Error (String × Option Resource) :=
  match t.resources.get? key with
  | some r => .ok (r.device, some r)
  | none =>
    if t.devices.contains key then .ok (key, none)
    else .error (.inconsistent (.unit key))

/-- The devices that paging units belong to, each with the resources among the units. -/
def devicesFromUnits (t : DeviceTables) (keys : List String) : Except Error (List Device) := do
  t.reconcile (← keys.mapM t.unitOf)

/-- The paging units of a device, in index order. -/
def unitsOf (d : Device) : List String :=
  if d.resources.isEmpty then [d.id] else sortKeys (d.resources.map (·.id))

end DeviceTables

end EdgeCatalog
