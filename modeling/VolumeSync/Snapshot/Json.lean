import VolumeSync.Json
import VolumeSync.Snapshot

-- Snapshots as JSON. A snapshot is read strictly: the fields have their
-- one type, those that may be absent may also be null or missing, and a
-- list of all fields in their order does as well as an object.

namespace VolumeSync

/-! ## Phases -/

/-- The key of a phase that has no name of its own. -/
def Phase.otherKey : String := "Other"

/-- A phase is written as its name; one without a name of its own as an
object that says so. -/
def Phase.toJson : Phase → Json
  | .other text => .record [(otherKey, .ofText text)]
  | p => .ofText p.text

/-- A phase is its name, or an object of one member that gives a name
with nothing under it or a text under `Other`. -/
def Phase.ofJson? : Json → Option Phase
  | .str (some name) => ofName? name
  | .object [(some key, value)] =>
    if key = otherKey then value.text?.map .other
    else match ofName? key, value with
      | some phase, .null => some phase
      | _, _ => none
  | _ => none

/-! ## Claims -/

/-- The fields of a claim in their order. -/
def ClaimRef.fieldNames : List String := ["namespace", "name"]

/-- A claim as an object. -/
def ClaimRef.toJson (c : ClaimRef) : Json :=
  .record [("namespace", .ofText c.namespaceName), ("name", .ofText c.name)]

/-- Reads a claim. -/
def ClaimRef.ofJson? (value : Json) : Option ClaimRef := do
  let [namespaceName, name] ← value.fields? fieldNames | none
  return {
    namespaceName := ← Json.required? Json.text? namespaceName
    name := ← Json.required? Json.text? name }

/-! ## Snapshots -/

namespace Snapshot

/-- The fields of a snapshot in their order. -/
def fieldNames : List String :=
  ["name", "uid", "resource_version", "phase", "capacity_bytes", "attributes", "reclaim_policy",
   "storage_class", "claim_ref", "driver", "volume_handle"]

/-- A snapshot as an object of all its fields, absent ones as null. -/
def toJson (s : Snapshot) : Json :=
  .record
    [("name", .ofText s.name),
     ("uid", .ofText? s.uid),
     ("resource_version", .ofText? s.resourceVersion),
     ("phase", s.phase.toJson),
     ("capacity_bytes", (s.capacityBytes.map Json.ofWord).getD .null),
     ("attributes", .ofMap s.attributes),
     ("reclaim_policy", .ofText s.reclaimPolicy),
     ("storage_class", .ofText s.storageClass),
     ("claim_ref", (s.claimRef.map ClaimRef.toJson).getD .null),
     ("driver", .ofText? s.driver),
     ("volume_handle", .ofText s.volumeHandle)]

/-- Reads a snapshot. -/
def ofJson? (value : Json) : Option Snapshot := do
  let [name, uid, resourceVersion, phase, capacityBytes, attributes, reclaimPolicy, storageClass,
    claimRef, driver, volumeHandle] ← value.fields? fieldNames | none
  return {
    name := ← Json.required? Json.text? name
    uid := ← Json.optional? Json.text? uid
    resourceVersion := ← Json.optional? Json.text? resourceVersion
    phase := ← Json.required? Phase.ofJson? phase
    capacityBytes := ← Json.optional? Json.word? capacityBytes
    attributes := ← Json.required? Json.map? attributes
    reclaimPolicy := ← Json.required? Json.text? reclaimPolicy
    storageClass := ← Json.required? Json.text? storageClass
    claimRef := ← Json.optional? ClaimRef.ofJson? claimRef
    driver := ← Json.optional? Json.text? driver
    volumeHandle := ← Json.required? Json.text? volumeHandle }

end Snapshot

/-- A reference as the cluster writes it, absent parts left out. -/
def ObjectRef.toJson (r : ObjectRef) : Json :=
  .record ([("apiVersion", .ofText apiVersion), ("kind", .ofText kind), ("name", .ofText r.name)]
    ++ (r.uid.map fun uid => ("uid", Json.ofText uid)).toList
    ++ (r.resourceVersion.map fun v => ("resourceVersion", Json.ofText v)).toList)

end VolumeSync
