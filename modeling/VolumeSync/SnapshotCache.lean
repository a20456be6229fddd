import VolumeSync.Change
import VolumeSync.PersistentVolume

-- The memory of the watch: the last snapshot of every volume. It turns
-- what the cluster reports of single volumes into changes.

namespace VolumeSync

/-- What the cluster's watch reports. A complete list comes as `init`,
one `initApply` for each volume, and `initDone`. -/
inductive WatchStep where
  | init
  | initApply (pv : PersistentVolume)
  | initDone
  | apply (pv : PersistentVolume)
  | delete (pv : PersistentVolume)

/-- The last snapshot of every volume, by the volume's key. -/
structure SnapshotCache where
  lastSeen : Keyed Snapshot
  deriving DecidableEq

namespace SnapshotCache

/-- Nothing has been seen. -/
def fresh : SnapshotCache := ⟨.empty⟩

/-- The number of volumes remembered. -/
def size (c : SnapshotCache) : Nat := c.lastSeen.size

/-- No volume is remembered. -/
def isEmpty (c : SnapshotCache) : Bool := c.lastSeen.isEmpty

/-- Remembers the volume as it is now. -/
def remember (c : SnapshotCache) (pv : PersistentVolume) : SnapshotCache :=
  ⟨c.lastSeen.insert pv.key pv.snapshot⟩

/-- Forgets the volume. -/
def forget (c : SnapshotCache) (pv : PersistentVolume) : SnapshotCache :=
  ⟨c.lastSeen.erase pv.key⟩

/-- The volume as it was seen last. -/
def lastSnapshot? (c : SnapshotCache) (pv : PersistentVolume) : Option Snapshot :=
  c.lastSeen.find? pv.key

/-- Takes one report. A volume of a list only fills the memory unless it
was there already; a deletion is no change. -/
def observe (c : SnapshotCache) : WatchStep → SnapshotCache × Option Change
  | .apply pv => (c.remember pv, some ⟨c.lastSnapshot? pv, pv.snapshot⟩)
  | .initApply pv => (c.remember pv, (c.lastSnapshot? pv).map fun old => ⟨some old, pv.snapshot⟩)
  | .delete pv => (c.forget pv, none)
  | .init => (c, none)
  | .initDone => (c, none)

/-- The memory after all reports. -/
def after (c : SnapshotCache) (steps : List WatchStep) : SnapshotCache :=
  steps.foldl (fun c step => (c.observe step).1) c

/-- The changes that the reports give, in order. -/
def changes (c : SnapshotCache) : List WatchStep → List Change
  | [] => []
  | step :: steps =>
    let (next, change) := c.observe step
    change.toList ++ next.changes steps

end SnapshotCache

end VolumeSync
