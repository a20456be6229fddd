import VolumeSync.Change
import VolumeSync.Effect

-- The task of one change: tell the provider about the volume, in two
-- phases that are both best effort. A failed metadata update is reported
-- and the tags are still sent. Nothing is tried twice.

namespace VolumeSync

/-! ## How a task ends -/

/-- What a task did. -/
inductive Outcome where
  | skipped
  | noSession
  | updated (metadataSaved : Bool) (tagsSynced : Option Bool)
  deriving DecidableEq, Repr

/-- How a task ends, or that it does not. -/
inductive Ending where
  | finished (outcome : Outcome)
  | sessionFailed (failure : Failure)
  | panicked (payload : Panic)
  | hung
  deriving DecidableEq, Repr

/-- What is seen of a task, and how it ends. -/
structure TaskRun where
  trace : Trace
  ending : Ending
  deriving DecidableEq

namespace TaskRun

/-- The run with more to be seen before it. -/
def after (seen : Trace) (r : TaskRun) : TaskRun := ⟨seen ++ r.trace, r.ending⟩

end TaskRun

/-! ## The two phases -/

namespace Reconcile

/-- The tag phase. The call is made only at the volume's first bind, and
both its success and its failure are notified. -/
def tagPhase (site : Site) (change : Change) (session : Nat) (act : Act) (metadataSaved : Bool) :
    TaskRun :=
  if change.isFirstBind then
    let called := Effect.called ⟨session, .tags, site.describe change.new⟩
    let resource := change.new.objectRef
    match act with
    | .succeed =>
      ⟨[called, .notified (.success resource)], .finished (.updated metadataSaved (some true))⟩
    | .fail f =>
      ⟨[called, .logged (.tagsFailed f), .notified (.failure resource f)],
        .finished (.updated metadataSaved (some false))⟩
    | .panic payload => ⟨[called], .panicked payload⟩
    | .hang => ⟨[called], .hung⟩
  else ⟨[], .finished (.updated metadataSaved none)⟩

/-- The metadata phase and what follows it. Only the failure of the call
is notified. -/
def metadataPhase (site : Site) (change : Change) (session : Nat) (b : Behaviour) : TaskRun :=
  let called := Effect.called ⟨session, .metadata, site.describe change.new⟩
  match b.metadata with
  | .succeed => (tagPhase site change session b.tags true).after [called]
  | .fail f =>
    (tagPhase site change session b.tags false).after
      [called, .logged (.metadataFailed f), .notified (.failure change.new.objectRef f)]
  | .panic payload => ⟨[called], .panicked payload⟩
  | .hang => ⟨[called], .hung⟩

/-- The task of a change that asks, if it has to, for the session with
the given number. -/
def run (site : Site) (change : Change) (session : Nat) (b : Behaviour) : TaskRun :=
  if change.isMaterial then
    match b.session with
    | .granted => (metadataPhase site change session b).after [.requested session]
    | .unavailable => ⟨[.requested session], .finished .noSession⟩
    | .fail f => ⟨[.requested session], .sessionFailed f⟩
    | .panic payload => ⟨[.requested session], .panicked payload⟩
    | .hang => ⟨[.requested session], .hung⟩
  else ⟨[], .finished .skipped⟩

end Reconcile

end VolumeSync
