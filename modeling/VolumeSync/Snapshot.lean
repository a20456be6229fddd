import VolumeSync.Keyed
import VolumeSync.Phase
import VolumeSync.Word

-- What is known of one volume at one moment: the part of the cluster's
-- object that decides whether the provider has to be told, and what.

namespace VolumeSync

/-! ## Snapshots -/

/-- The claim that a volume is bound to. -/
structure ClaimRef where
  namespaceName : String
  name : String
  deriving DecidableEq, Repr

/-- One volume at one moment. A volume that comes from no storage driver
has no driver name. -/
structure Snapshot where
  name : String
  uid : Option String
  resourceVersion : Option String
  phase : Phase
  capacityBytes : Option Int64
  attributes : Keyed String
  reclaimPolicy : String
  storageClass : String
  claimRef : Option ClaimRef
  driver : Option String
  volumeHandle : String
  deriving DecidableEq

namespace Snapshot

/-- The snapshot of which nothing is known. -/
def blank : Snapshot :=
  { name := "", uid := none, resourceVersion := none, phase := .unknown, capacityBytes := none,
    attributes := .empty, reclaimPolicy := "", storageClass := "", claimRef := none,
    driver := none, volumeHandle := "" }

instance : Inhabited Snapshot := ⟨blank⟩

/-! ## Attributes of the driver -/

/-- The user's own tags, separated by commas. -/
def tagsKey : String := "tags"

/-- The resource name under which the provider owns the volume. -/
def crnKey : String := "volumeCRN"

/-- The cluster that the volume belongs to. -/
def clusterKey : String := "clusterID"

/-- The rate of operations that the volume is sold with. -/
def iopsKey : String := "iops"

/-- The attribute of the key. -/
def attr? (s : Snapshot) (key : String) : Option String := s.attributes.find? key

/-- The attribute of the key, absent read as empty. -/
def attr (s : Snapshot) (key : String) : String := (s.attr? key).getD ""

/-- The rate of operations, if one is given. -/
def iops? (s : Snapshot) : Option String := s.attr? iopsKey

/-- The declared bytes, absent read as zero. -/
def bytes (s : Snapshot) : Int64 := s.capacityBytes.getD 0

/-- The namespace of the claim, empty without a claim. -/
def claimNamespace (s : Snapshot) : String := (s.claimRef.map (·.namespaceName)).getD ""

/-- The name of the claim, empty without a claim. -/
def claimName (s : Snapshot) : String := (s.claimRef.map (·.name)).getD ""

/-- The volume comes from the driver of this name. A volume without a
driver, or no volume at all, comes from none. -/
def comesFrom (provisioner : String) (s : Option Snapshot) : Bool :=
  (s.bind (·.driver)) == some provisioner

end Snapshot

/-! ## References -/

/-- Names the cluster object that a notification is about. -/
structure ObjectRef where
  name : String
  uid : Option String
  resourceVersion : Option String
  deriving DecidableEq, Repr

/-- The API version of every object referred to. -/
def ObjectRef.apiVersion : String := "v1"

/-- The kind of every object referred to. -/
def ObjectRef.kind : String := "PersistentVolume"

/-- The reference to the volume of the snapshot. -/
def Snapshot.objectRef (s : Snapshot) : ObjectRef := ⟨s.name, s.uid, s.resourceVersion⟩

end VolumeSync
