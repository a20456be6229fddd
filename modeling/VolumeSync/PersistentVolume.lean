import VolumeSync.Json
import VolumeSync.Quantity
import VolumeSync.Snapshot

-- The cluster's object for a volume: how it is read out of JSON, the key
-- it is remembered by, and the snapshot it gives. Every field may be
-- missing or null; a field of the wrong type makes the object unreadable.

namespace VolumeSync

/-! ## Objects -/

/-- Where the volume comes from, if a storage driver made it. -/
structure DriverSource where
  driver : String
  volumeHandle : String
  attributes : Keyed String
  deriving DecidableEq

/-- The cluster's object for a volume, as far as it is looked at. -/
structure PersistentVolume where
  name : Option String
  generateName : Option String
  uid : Option String
  resourceVersion : Option String
  phase : Option String
  /-- The declared capacity, as it is written. -/
  storage : Option String
  claimRef : Option ClaimRef
  reclaimPolicy : Option String
  storageClass : Option String
  source : Option DriverSource
  deriving DecidableEq

namespace PersistentVolume

/-- The key by which the volume is remembered: its name, else the stem of
a generated name, else nothing. -/
def key (pv : PersistentVolume) : String := (pv.name.or pv.generateName).getD ""

/-- The declared bytes, if they are declared and can be read. -/
def capacityBytes? (pv : PersistentVolume) : Option Int64 := pv.storage.bind bytesOfQuantity?

/-- What is known of the volume. -/
def snapshot (pv : PersistentVolume) : Snapshot :=
  { name := pv.name.getD ""
    uid := pv.uid
    resourceVersion := pv.resourceVersion
    phase := .ofReport pv.phase
    capacityBytes := pv.capacityBytes?
    attributes := (pv.source.map (·.attributes)).getD .empty
    reclaimPolicy := pv.reclaimPolicy.getD ""
    storageClass := pv.storageClass.getD ""
    claimRef := pv.claimRef
    driver := pv.source.map (·.driver)
    volumeHandle := (pv.source.map (·.volumeHandle)).getD "" }

/-! ## Reading -/

/-- The members of an object whose keys are texts. -/
abbrev Members := List (Literal × Json)

/-- The members of an object. -/
def members? : Json → Option Members
  | .object members => some members
  | _ => none

/-- What the members hold under a key; of a repeated key the last value
counts. -/
def find? (key : String) (members : Members) : Option Json :=
  (Json.valuesOf key members).getLast?

/-- A part that may be missing or null. -/
def part? {α : Type} (read : Json → Option α) (key : String) (members : Members) :
    Option (Option α) :=
  Json.optional? read (find? key members)

/-- A part that may be missing but not null. -/
def present? {α : Type} (read : Json → Option α) (key : String) (members : Members) :
    Option (Option α) :=
  match find? key members with
  | none => some none
  | some value => (read value).map some

/-- A member that, if it is there, has to be this text. -/
def fixed? (key text : String) (members : Members) : Option Unit := do
  let value ← present? Json.text? key members
  guard ((value.getD text) == text)

/-- An amount is a text or an integer of 64 bits, with or without a sign,
read as its decimal text. -/
def amount? : Json → Option String
  | .str value => value
  | .int n =>
    if FitsIn 64 n ∨ (0 ≤ n ∧ n < (wordCount 64 : Int)) then some (toString n) else none
  | _ => none

/-- The amounts of a capacity, each of them readable. -/
def amounts? (value : Json) : Option (Keyed String) := do
  let entries ← (← members? value).mapM fun (key, value) => do return (← key, ← amount? value)
  return Keyed.ofList entries

/-- Reads the reference to a claim. -/
def claim? (value : Json) : Option ClaimRef := do
  let ms ← members? value
  return {
    namespaceName := (← part? Json.text? "namespace" ms).getD ""
    name := (← part? Json.text? "name" ms).getD "" }

/-- Reads where the volume comes from. -/
def source? (value : Json) : Option DriverSource := do
  let ms ← members? value
  return {
    driver := (← part? Json.text? "driver" ms).getD ""
    volumeHandle := (← part? Json.text? "volumeHandle" ms).getD ""
    attributes := (← part? Json.map? "volumeAttributes" ms).getD .empty }

/-- Reads a volume's object. -/
def ofJson? (value : Json) : Option PersistentVolume := do
  let ms ← members? value
  fixed? "apiVersion" ObjectRef.apiVersion ms
  fixed? "kind" ObjectRef.kind ms
  let metadata := (← part? members? "metadata" ms).getD []
  let spec := (← part? members? "spec" ms).getD []
  let status := (← part? members? "status" ms).getD []
  return {
    name := ← part? Json.text? "name" metadata
    generateName := ← part? Json.text? "generateName" metadata
    uid := ← part? Json.text? "uid" metadata
    resourceVersion := ← part? Json.text? "resourceVersion" metadata
    phase := ← part? Json.text? "phase" status
    storage := (← part? amounts? "capacity" spec).bind (·.find? "storage")
    claimRef := ← part? claim? "claimRef" spec
    reclaimPolicy := ← part? Json.text? "persistentVolumeReclaimPolicy" spec
    storageClass := ← part? Json.text? "storageClassName" spec
    source := ← part? source? "csi" spec }

end PersistentVolume

end VolumeSync
