import VolumeSync.Behaviour
import VolumeSync.Descriptor

-- What the outside world sees of the watcher: session requests, calls,
-- notifications and the lines of the log that report trouble.

namespace VolumeSync

/-! ## Calls -/

/-- The two updates of a volume. -/
inductive UpdateKind where
  | metadata
  | tags
  deriving DecidableEq, Repr

/-- The update in one word, as it ends a request path. -/
def UpdateKind.word : UpdateKind → String
  | .metadata => "metadata"
  | .tags => "tags"

/-- A call to the provider. -/
structure Call where
  session : Nat
  kind : UpdateKind
  volume : Descriptor
  deriving DecidableEq

/-! ## Notifications -/

/-- How serious a notification is. -/
inductive Severity where
  | normal
  | warning
  deriving DecidableEq, Repr

/-- The severity in the cluster's words. -/
def Severity.word : Severity → String
  | .normal => "Normal"
  | .warning => "Warning"

/-- A notification that is attached to a volume. -/
structure Notice where
  resource : ObjectRef
  severity : Severity
  note : String
  deriving DecidableEq

namespace Notice

/-- The reason of every notification. -/
def reason : String := "VolumeMetaDataSaved"

/-- The action that every notification is about. -/
def action : String := "UpdateVolume"

/-- The update went well. -/
def success (resource : ObjectRef) : Notice := ⟨resource, .normal, "Success"⟩

/-- The update failed; the note is the error in short. -/
def failure (resource : ObjectRef) (f : Failure) : Notice := ⟨resource, .warning, f.summary⟩

end Notice

/-! ## Log lines -/

/-- A line of the log that reports trouble. -/
inductive LogLine where
  | metadataFailed (failure : Failure)
  | tagsFailed (failure : Failure)
  | noSession (failure : Failure)
  | recovered (payload : Panic)
  | unrecorded (resource : ObjectRef)
  | watchFailed
  deriving DecidableEq

namespace LogLine

/-- The level of the line. -/
def level : LogLine → String
  | .recovered _ => "ERROR"
  | .watchFailed => "ERROR"
  | _ => "WARN"

/-- The text of the line. What the cluster's own API has to say of an
error comes after the colon of the last two and is left open. -/
def message : LogLine → String
  | .metadataFailed f => "Failed to update volume metadata: " ++ f.report
  | .tagsFailed f => "Failed to update volume with tags from VPC IaaS: " ++ f.report
  | .noSession f =>
    "Reconcile skipped, no provider session: " ++ (WatcherError.session f.summary).message
  | .recovered payload => "Recovered from panic in pv watcher: " ++ payload.message
  | .unrecorded resource =>
    "Failed to record event " ++ Notice.reason ++ " for " ++ resource.name ++ ": "
  | .watchFailed => "PersistentVolume watcher error: "

end LogLine

/-! ## Effects -/

/-- One thing that the outside world sees. -/
inductive Effect where
  | requested (session : Nat)
  | called (call : Call)
  | notified (notice : Notice)
  | logged (line : LogLine)
  deriving DecidableEq

namespace Effect

/-- The session that was requested. -/
def request? : Effect → Option Nat
  | .requested session => some session
  | _ => none

/-- The call that was made. -/
def call? : Effect → Option Call
  | .called call => some call
  | _ => none

/-- The notification that was sent. -/
def notice? : Effect → Option Notice
  | .notified notice => some notice
  | _ => none

/-- The line that was logged. -/
def line? : Effect → Option LogLine
  | .logged line => some line
  | _ => none

end Effect

/-- What was seen, in order. -/
abbrev Trace := List Effect

namespace Trace

/-- The sessions that were requested. -/
def requests (t : Trace) : List Nat := t.filterMap Effect.request?

/-- The calls that were made. -/
def calls (t : Trace) : List Call := t.filterMap Effect.call?

/-- The notifications that were sent. -/
def notices (t : Trace) : List Notice := t.filterMap Effect.notice?

/-- The lines that were logged. -/
def lines (t : Trace) : List LogLine := t.filterMap Effect.line?

end Trace

end VolumeSync
