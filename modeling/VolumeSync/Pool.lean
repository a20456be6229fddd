import VolumeSync.Supervisor

-- The supervisor with nothing said about who comes next. It may take a
-- change from the stream at any time, any task that waits may have a free
-- permit, any task that runs may do the next thing it has to do, and any
-- ended task may be counted. Tasks share nothing but the permits and the
-- numbers of the session requests.

namespace VolumeSync

namespace Supervisor

/-! ## Surroundings -/

/-- The changes of a stream by their numbers. At the first number without
a change the stream ends or stands still. -/
abbrev Feed := Nat → Option Change

/-- The stream of these changes. -/
def Feed.ofList (events : List Change) : Feed := fun i => events[i]?

/-- How the provider behaves toward the task of a change, by the number of
the change in the stream and the number of the session request. -/
abbrev Provider := Nat → Nat → Behaviour

/-! ## Tasks -/

/-- The task of a change, with the number of the change in the stream. -/
structure Task where
  ticket : Nat
  change : Change
  deriving DecidableEq

/-- A task between its permit and its end, and what it still does. Before
its first action that is open, as it hangs on the number of its request. -/
structure Running where
  task : Task
  left : Option TaskRun
  deriving DecidableEq

/-- A task behind its end. -/
structure Ended where
  task : Task
  report : TaskReport
  deriving DecidableEq

/-! ## The state -/

/-- The supervisor and its tasks in the middle of a run. -/
structure Pool where
  /-- The number of changes taken from the stream. -/
  taken : Nat
  /-- Tasks that have not begun. -/
  waiting : List Task
  running : List Running
  /-- Ended tasks that have not been counted. -/
  ended : List Ended
  /-- Ended tasks that have been counted. -/
  reaped : List Ended
  /-- Free permits; none if there is no ceiling. -/
  free : Option Nat
  /-- The tickets of the tasks that hold a permit. -/
  held : List Nat
  /-- What is seen of the tasks, each with its ticket. -/
  trace : List (Nat × Effect)
  summary : Summary
  deriving DecidableEq

/-- Something that may happen next. A task is named by its place among the
tasks that are as far as it is. -/
inductive Move where
  | consume
  | acquire (place : Nat)
  | act (place : Nat)
  | finish (place : Nat)
  | reap (place : Nat)
  deriving DecidableEq, Repr

namespace Pool

/-- Nothing has happened. -/
def start (ceiling : Option Nat) : Pool :=
  { taken := 0, waiting := [], running := [], ended := [], reaped := [], free := ceiling,
    held := [], trace := [], summary := .zero }

/-- What is seen of all tasks. -/
def seen (p : Pool) : Trace := p.trace.map (·.2)

/-! ## Moves -/

/-- Takes one change from the stream: a foreign one is only counted. -/
def receive (site : Site) (p : Pool) (change : Change) : Pool :=
  if Snapshot.comesFrom site.provisioner (some change.new) then
    { p with
      taken := p.taken + 1
      waiting := p.waiting ++ [⟨p.taken, change⟩]
      summary := { p.summary with dispatched := p.summary.dispatched + 1 } }
  else
    { p with
      taken := p.taken + 1
      summary := { p.summary with filteredOut := p.summary.filteredOut + 1 } }

/-- Lets a task begin, if there is a permit for it or none is asked for. -/
def acquire? (p : Pool) (place : Nat) : Option Pool :=
  match p.waiting[place]?, p.free with
  | none, _ => none
  | some _, some 0 => none
  | some task, some (free + 1) =>
    some { p with
      waiting := p.waiting.eraseIdx place
      running := p.running ++ [⟨task, none⟩]
      free := some free
      held := p.held ++ [task.ticket] }
  | some task, none =>
    some { p with
      waiting := p.waiting.eraseIdx place
      running := p.running ++ [⟨task, none⟩] }

/-- What a running task still does. One that has not acted yet would get
the next session number. -/
def plan (site : Site) (provider : Provider) (p : Pool) (r : Running) : TaskRun :=
  let session := p.seen.requests.length
  r.left.getD (Reconcile.run site r.task.change session (provider r.task.ticket session))

/-- Lets a running task do the next thing. -/
def act? (site : Site) (provider : Provider) (p : Pool) (place : Nat) : Option Pool :=
  match p.running[place]? with
  | none => none
  | some r =>
    let plan := p.plan site provider r
    match plan.trace with
    | [] => none
    | effect :: rest =>
      some { p with
        running := p.running.set place ⟨r.task, some ⟨rest, plan.ending⟩⟩
        trace := p.trace ++ [(r.task.ticket, effect)] }

/-- Lets a running task end that has nothing left to do. However it ends,
its permit goes back; one that hangs never ends. -/
def finish? (site : Site) (provider : Provider) (p : Pool) (place : Nat) : Option Pool :=
  match p.running[place]? with
  | none => none
  | some r =>
    match p.plan site provider r with
    | ⟨[], ending⟩ =>
      ending.report?.map fun (report, lines) =>
        { p with
          running := p.running.eraseIdx place
          ended := p.ended ++ [⟨r.task, report⟩]
          free := p.free.map (· + 1)
          held := p.held.erase r.task.ticket
          trace := p.trace ++ lines.map fun line => (r.task.ticket, .logged line) }
    | ⟨_ :: _, _⟩ => none

/-- Counts an ended task. -/
def reap? (p : Pool) (place : Nat) : Option Pool :=
  match p.ended[place]? with
  | none => none
  | some e =>
    some { p with
      ended := p.ended.eraseIdx place
      reaped := p.reaped ++ [e]
      summary := p.summary.record e.report }

/-- The state after the move, if it is possible. -/
def move? (site : Site) (provider : Provider) (feed : Feed) (p : Pool) : Move → Option Pool
  | .consume => (feed p.taken).map (p.receive site)
  | .acquire place => p.acquire? place
  | .act place => p.act? site provider place
  | .finish place => p.finish? site provider place
  | .reap place => p.reap? place

/-! ## Runs -/

/-- The moves lead from the one state to the other. -/
inductive Steps (site : Site) (provider : Provider) (feed : Feed) (p : Pool) : Pool → Prop where
  | refl : Steps site provider feed p p
  | snoc {q r : Pool} {m : Move} : Steps site provider feed p q →
      q.move? site provider feed m = some r → Steps site provider feed p r

/-- The state can come about. -/
def Reachable (site : Site) (provider : Provider) (feed : Feed) (ceiling : Option Nat)
    (p : Pool) : Prop :=
  Steps site provider feed (start ceiling) p

end Pool

end Supervisor

end VolumeSync
