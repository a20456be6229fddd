import VolumeSync.Keyed
import VolumeSync.Quantity
import VolumeSync.Tags
import VolumeSync.VolumeTypes

-- A volume as the provider sees it, and how one is made from a snapshot.
-- A released volume becomes a tombstone, which carries no tags, no
-- capacity and no rate; every other phase carries all of them.

namespace VolumeSync

/-! ## Descriptors -/

/-- A volume as the provider sees it. -/
structure Descriptor where
  volumeId : String
  provider : String
  volumeType : String
  crn : String
  tags : List String
  /-- Whole gibibytes. -/
  capacity : Option Int64
  iops : Option String
  attributes : Keyed String
  deriving DecidableEq

namespace Descriptor

/-- The attribute that says whether the volume still exists. -/
def statusKey : String := "status"

/-- The status of a volume that exists. -/
def created : String := "created"

/-- The status of a volume that is gone. -/
def deleted : String := "deleted"

/-- The attribute that holds the cluster. -/
def clusterKey : String := "clusterid"

/-- The status attribute. -/
def status? (d : Descriptor) : Option String := d.attributes.find? statusKey

/-- The descriptor says that the volume is gone. -/
def isTombstone (d : Descriptor) : Bool := d.status? == some deleted

end Descriptor

/-! ## From snapshots -/

/-- What one watcher is set up for: the driver whose volumes it manages,
the kind of provider, and the volume types. -/
structure Site where
  provisioner : String
  providerType : String
  volumeTypes : VolumeTypes

namespace Site

/-- The attributes of every descriptor, with the status in them. -/
def attributes (s : Snapshot) (status : String) : Keyed String :=
  Keyed.ofList [(Descriptor.clusterKey, s.attr Snapshot.clusterKey),
    (Descriptor.statusKey, status)]

/-- The descriptor of a volume. -/
def describe (site : Site) (s : Snapshot) : Descriptor :=
  let volumeType := site.volumeTypes.typeOf s.driver
  if s.phase.isReleased then
    { volumeId := s.volumeHandle, provider := site.providerType, volumeType, crn := s.crn,
      tags := [], capacity := none, iops := none,
      attributes := attributes s Descriptor.deleted }
  else
    { volumeId := s.volumeHandle, provider := site.providerType, volumeType, crn := s.crn,
      tags := s.tags site.provisioner,
      capacity := some (wholeGibibytes s.bytes),
      iops := some (s.iops?.getD ""),
      attributes := attributes s Descriptor.created }

end Site

end VolumeSync
