import VolumeSync.Snapshot
import VolumeSync.Text.Blank

-- The tags that go with a volume: first the user's own, as they were
-- written, then seven that are derived from the volume, always in the
-- same order. Nothing is checked and nothing is removed twice over, so
-- a derived tag is known by its place and not by its text.

namespace VolumeSync

/-- The user's tags: the trimmed text cut at every comma. A blank text
holds no tag. -/
def userTags (text : String) : List String :=
  match Text.trimChars text.toList with
  | [] => []
  | cs => (cs.splitOn ',').map String.ofList

/-- The seven derived tags. -/
def derivedTags (s : Snapshot) (provisioner : String) : List String :=
  ["clusterID:" ++ s.attr Snapshot.clusterKey,
   "reclaimpolicy:" ++ s.reclaimPolicy,
   "storageclass:" ++ s.storageClass,
   "namespace:" ++ s.claimNamespace,
   "pvc:" ++ s.claimName,
   "pv:" ++ s.name,
   "provisioner:" ++ provisioner]

/-- All tags of the volume. -/
def Snapshot.tags (s : Snapshot) (provisioner : String) : List String :=
  userTags (s.attr tagsKey) ++ derivedTags s provisioner

/-- The provider's resource name, empty if there is none. -/
def Snapshot.crn (s : Snapshot) : String := s.attr crnKey

theorem length_derivedTags (s : Snapshot) (provisioner : String) :
    (derivedTags s provisioner).length = 7 := rfl

end VolumeSync
