import VolumeSync.ClusterWatch
import VolumeSync.EventSeries
import VolumeSync.Supervisor

-- The watcher as a whole: the cluster is followed, its reports become
-- changes, the supervisor runs their tasks, and what these have to say to
-- the user becomes events of the cluster. It never comes to an end.

namespace VolumeSync

/-- Where notifications go: they are kept, or made into events of the
cluster, whose answers are given by their statuses. -/
inductive NoticeSink where
  | memory
  | cluster (statuses : List Nat)
  deriving DecidableEq, Repr

namespace Watcher

/-- What is seen of the watcher. -/
structure Result where
  /-- The requests that the cluster answered. -/
  requests : List ClusterRequest
  /-- What is seen of the tasks. -/
  trace : Trace
  /-- The requests to the event interface. -/
  publications : List Publication
  /-- The lines of the log, by where they come from. -/
  lines : List LogLine

/-- The line about a notification that did not become an event. -/
def unrecorded? (attempt : EventLog.Attempt) : Option LogLine :=
  if attempt.recorded then none else some (.unrecorded attempt.notice.resource)

/-- Runs the watcher until nothing can go on. -/
def run (site : Site) (script : Script) (ceiling : Option Nat) (cluster : Cluster)
    (sink : NoticeSink) : Except Supervisor.TooManyPermits Result := do
  let sightings := cluster.follow
  let changes := SnapshotCache.fresh.changes (sightings.filterMap Sighting.step?)
  let result ← Supervisor.run site script ceiling changes true
  let attempts := match sink with
    | .memory => []
    | .cluster statuses => EventLog.publish [] result.trace.notices statuses
  return {
    requests := sightings.filterMap Sighting.request?
    trace := result.trace
    publications := attempts.filterMap (·.request)
    lines :=
      (sightings.filter Sighting.isFailure).map (fun _ => .watchFailed) ++ result.trace.lines
        ++ attempts.filterMap unrecorded? }

end Watcher

end VolumeSync
