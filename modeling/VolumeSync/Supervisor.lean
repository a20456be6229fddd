import VolumeSync.Reconcile

-- The supervisor takes changes from a stream, keeps those of its own
-- driver and runs a task for each. Tasks are independent: one that fails,
-- panics or hangs harms no other, but where the number of running tasks
-- has a ceiling, one that hangs keeps its permit for ever.
--
-- Everything runs on one thread. The stream is taken first, then the
-- tasks run in the order of their dispatch, each going on until it ends,
-- hangs or has to wait for a permit, and last the ended tasks are counted.

namespace VolumeSync

/-! ## Counting -/

/-- How a task ended, as far as it is counted. -/
inductive TaskReport where
  | completed (outcome : Outcome)
  | failed (message : String)
  | panicked (message : String)
  deriving DecidableEq, Repr

/-- The report on a task and the line that the supervisor logs about it.
A task that hangs has neither. -/
def Ending.report? : Ending → Option (TaskReport × List LogLine)
  | .finished outcome => some (.completed outcome, [])
  | .sessionFailed f =>
    some (.failed (WatcherError.session f.summary).message, [.noSession f])
  | .panicked payload => some (.panicked payload.message, [.recovered payload])
  | .hung => none

/-- The numbers of changes by what became of them. -/
structure Summary where
  filteredOut : Nat
  dispatched : Nat
  completed : Nat
  failed : Nat
  panicked : Nat
  deriving DecidableEq, Repr

/-- Nothing has been counted. -/
def Summary.zero : Summary := ⟨0, 0, 0, 0, 0⟩

/-- Counts an ended task. -/
def Summary.record (s : Summary) : TaskReport → Summary
  | .completed _ => { s with completed := s.completed + 1 }
  | .failed _ => { s with failed := s.failed + 1 }
  | .panicked _ => { s with panicked := s.panicked + 1 }

/-! ## The state of a run -/

/-- A dispatched task that has not run yet, with or without a permit in
hand. -/
structure Job where
  change : Change
  permitted : Bool
  deriving DecidableEq

namespace Supervisor

/-- A run in the middle. -/
structure State where
  /-- Changes not yet taken from the stream. -/
  arrivals : List Change
  /-- Tasks that may run, first come first served. -/
  ready : List Job
  /-- Tasks that wait for a permit, first come first served. -/
  waiting : List Change
  /-- Free permits; none if there is no ceiling. -/
  free : Option Nat
  /-- Tasks that hang. -/
  hung : Nat
  /-- Reports on ended tasks that have not been counted. -/
  ended : List TaskReport
  trace : Trace
  summary : Summary

/-- A run before its first step. -/
def State.start (ceiling : Option Nat) (arrivals : List Change) : State :=
  { arrivals, ready := [], waiting := [], free := ceiling, hung := 0, ended := [], trace := [],
    summary := .zero }

namespace State

/-! ## Steps -/

/-- Takes one change from the stream: a foreign one is only counted. -/
def receive (site : Site) (s : State) (change : Change) : State :=
  if Snapshot.comesFrom site.provisioner (some change.new) then
    { s with
      ready := s.ready ++ [⟨change, false⟩]
      summary := { s.summary with dispatched := s.summary.dispatched + 1 } }
  else { s with summary := { s.summary with filteredOut := s.summary.filteredOut + 1 } }

/-- Gives a permit back: the first task that waits has it next. -/
def release (s : State) : State :=
  match s.waiting with
  | [] => { s with free := s.free.map (· + 1) }
  | change :: waiting => { s with waiting, ready := s.ready ++ [⟨change, true⟩] }

/-- Runs a task that has its permit. -/
def perform (site : Site) (script : Script) (s : State) (change : Change) : State :=
  let session := s.trace.requests.length
  let run := Reconcile.run site change session (script.play session)
  match run.ending.report? with
  | none => { s with trace := s.trace ++ run.trace, hung := s.hung + 1 }
  | some (report, lines) =>
    release { s with
      trace := s.trace ++ run.trace ++ lines.map Effect.logged
      ended := s.ended ++ [report] }

/-- Runs a task, or lets it wait if it has no permit and none is free. -/
def begin (site : Site) (script : Script) (s : State) (job : Job) : State :=
  if job.permitted then s.perform site script job.change
  else match s.free with
    | none => s.perform site script job.change
    | some (free + 1) => { s with free := some free }.perform site script job.change
    | some 0 => { s with waiting := s.waiting ++ [job.change] }

/-- One step of the run, if anything can go on. -/
def step? (site : Site) (script : Script) (s : State) : Option State :=
  match s.arrivals, s.ready, s.ended with
  | change :: arrivals, _, _ => some ({ s with arrivals }.receive site change)
  | [], job :: ready, _ => some ({ s with ready }.begin site script job)
  | [], [], report :: ended => some { s with ended, summary := s.summary.record report }
  | [], [], [] => none

/-- Steps until nothing can go on, at most `fuel` of them. -/
def settle (site : Site) (script : Script) : Nat → State → State
  | 0, s => s
  | fuel + 1, s =>
    match s.step? site script with
    | none => s
    | some next => settle site script fuel next

/-- A bound on the steps to come: a change may still have to be taken, to
wait, to run and to be counted. -/
def work (s : State) : Nat :=
  4 * s.arrivals.length + 3 * s.ready.length + 2 * s.waiting.length + s.ended.length

/-- All tasks have ended and been counted. -/
def isDone (s : State) : Bool := s.waiting.isEmpty && s.hung == 0

end State

/-! ## Runs -/

/-- The most permits that a ceiling may ask for. -/
def maxPermits : Nat := wordCount 61 - 1

/-- The ceiling asks for more permits than there can be. -/
structure TooManyPermits where
  deriving DecidableEq, Repr

/-- The refusal in words. -/
def TooManyPermits.message (_ : TooManyPermits) : String :=
  "a semaphore may not have more than MAX_PERMITS permits (" ++ toString maxPermits ++ ")"

/-- What a run leaves: what was seen of it, and the numbers if it comes
to an end. -/
structure Result where
  trace : Trace
  summary : Option Summary

/-- Runs the tasks of all changes of a stream that then ends, or stays
open for ever. -/
def run (site : Site) (script : Script) (ceiling : Option Nat) (events : List Change)
    (endless : Bool) : Except TooManyPermits Result :=
  if (ceiling.getD 0) ≤ maxPermits then
    let start := State.start ceiling events
    let last := start.settle site script start.work
    .ok ⟨last.trace, if last.isDone && !endless then some last.summary else none⟩
  else .error {}

end Supervisor

end VolumeSync
