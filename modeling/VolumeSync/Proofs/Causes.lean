import Mathlib.Data.List.Basic
import VolumeSync.Proofs.Supervision

-- The causes of an error. They are told in some lines of the log and nowhere
-- else: a run of a provider that gives no causes is the run with the causes
-- taken out of its lines.

namespace VolumeSync

/-! ## Without causes -/

/-- The error without its causes. -/
def Failure.bare (f : Failure) : Failure := .plain f.outermost

def Act.bare : Act → Act
  | .fail f => .fail f.bare
  | act => act

def Grant.bare : Grant → Grant
  | .fail f => .fail f.bare
  | grant => grant

def Behaviour.bare (b : Behaviour) : Behaviour := ⟨b.session.bare, b.metadata.bare, b.tags.bare⟩

def LogLine.bare : LogLine → LogLine
  | .metadataFailed f => .metadataFailed f.bare
  | .tagsFailed f => .tagsFailed f.bare
  | .noSession f => .noSession f.bare
  | line => line

def Effect.bare : Effect → Effect
  | .logged line => .logged line.bare
  | effect => effect

def Ending.bare : Ending → Ending
  | .sessionFailed f => .sessionFailed f.bare
  | ending => ending

/-- The provider gives no causes. -/
def Script.bare (script : Script) : Script := script.map Behaviour.bare

theorem Script.play_bare (script : Script) (session : Nat) :
    script.bare.play session = (script.play session).bare := by
  unfold play bare
  rw [List.getD_eq_getElem?_getD, List.getD_eq_getElem?_getD, List.getElem?_map]
  rcases script[session]? with _ | b
  · rfl
  · rfl

theorem LogLine.level_bare (line : LogLine) : line.bare.level = line.level := by
  cases line <;> rfl

def LogLine.isWarning (line : LogLine) : Bool := line.level == "WARN"

def LogLine.isError (line : LogLine) : Bool := line.level == "ERROR"

namespace Trace

/-- What is seen, without the causes in the lines. -/
def bare (t : Trace) : Trace := t.map Effect.bare

theorem bare_append (s t : Trace) : bare (s ++ t) = bare s ++ bare t := List.map_append

theorem requests_bare (t : Trace) : t.bare.requests = t.requests := by
  unfold requests bare
  rw [List.filterMap_map]
  refine List.filterMap_congr fun effect _ => ?_
  cases effect <;> rfl

theorem calls_bare (t : Trace) : t.bare.calls = t.calls := by
  unfold calls bare
  rw [List.filterMap_map]
  refine List.filterMap_congr fun effect _ => ?_
  cases effect <;> rfl

/-- A notification tells the outermost text of an error. -/
theorem notices_bare (t : Trace) : t.bare.notices = t.notices := by
  unfold notices bare
  rw [List.filterMap_map]
  refine List.filterMap_congr fun effect _ => ?_
  cases effect <;> rfl

theorem lines_bare (t : Trace) : t.bare.lines = t.lines.map LogLine.bare := by
  unfold lines bare
  rw [List.filterMap_map, List.map_filterMap]
  refine List.filterMap_congr fun effect _ => ?_
  cases effect <;> rfl

end Trace

/-! ## Tasks -/

namespace TaskRun

def bare (r : TaskRun) : TaskRun := ⟨r.trace.bare, r.ending.bare⟩

theorem bare_after (seen : Trace) (r : TaskRun) :
    (r.after seen).bare = r.bare.after seen.bare := by
  rw [bare, after, Trace.bare_append]
  rfl

theorem hangs_bare (r : TaskRun) : r.bare.hangs = r.hangs := by
  unfold hangs bare
  cases r.ending <;> rfl

/-- A report tells the outermost text of an error. -/
theorem report?_bare (r : TaskRun) : r.bare.report? = r.report? := by
  unfold report? bare
  cases r.ending <;> rfl

theorem watched_bare (r : TaskRun) : r.bare.watched = r.watched.bare := by
  unfold watched bare
  rw [Trace.bare_append]
  cases r.ending <;> rfl

end TaskRun

namespace Reconcile

theorem tagPhase_bare (site : Site) (change : Change) (n : Nat) (act : Act) (saved : Bool) :
    tagPhase site change n act.bare saved = (tagPhase site change n act saved).bare := by
  unfold tagPhase
  split
  · cases act <;> rfl
  · rfl

theorem metadataPhase_bare (site : Site) (change : Change) (n : Nat) (b : Behaviour) :
    metadataPhase site change n b.bare = (metadataPhase site change n b).bare := by
  have hmetadata : b.bare.metadata = b.metadata.bare := rfl
  have htags : b.bare.tags = b.tags.bare := rfl
  unfold metadataPhase
  rw [hmetadata, htags]
  simp only [tagPhase_bare]
  cases b.metadata with
  | succeed =>
    dsimp only [Act.bare]
    rw [TaskRun.bare_after]
    rfl
  | fail f =>
    dsimp only [Act.bare]
    rw [TaskRun.bare_after]
    rfl
  | panic payload => rfl
  | hang => rfl

theorem run_bare (site : Site) (change : Change) (n : Nat) (b : Behaviour) :
    run site change n b.bare = (run site change n b).bare := by
  unfold run
  split
  · have hsession : b.bare.session = b.session.bare := rfl
    rw [hsession]
    simp only [metadataPhase_bare]
    cases b.session with
    | granted =>
      dsimp only [Grant.bare]
      rw [TaskRun.bare_after]
      rfl
    | unavailable => rfl
    | fail f => rfl
    | panic payload => rfl
    | hang => rfl
  · rfl

end Reconcile

/-! ## Runs -/

namespace Supervisor

theorem tasks_bare (site : Site) (script : Script) (n : Nat) (changes : List Change) :
    tasks site script.bare n changes = (tasks site script n changes).map TaskRun.bare := by
  induction changes generalizing n with
  | nil => rfl
  | cons change rest ih =>
    rw [tasks, tasks, List.map_cons, ih, Script.play_bare, Reconcile.run_bare]

/-- Which tasks get to run hangs on nothing but which of them hang. -/
theorem performed_map {f : TaskRun → TaskRun} (hf : ∀ r, (f r).hangs = r.hangs)
    (ceiling : Option Nat) (runs : List TaskRun) :
    performed ceiling (runs.map f) = (performed ceiling runs).map f := by
  have huntil : ∀ permits, untilHung permits (runs.map f) = (untilHung permits runs).map f := by
    induction runs with
    | nil => intro permits; cases permits <;> rfl
    | cons r rest ih =>
      intro permits
      rcases permits with _ | permits
      · rfl
      · rw [List.map_cons, untilHung, untilHung, List.map_cons, hf, ih]
  rcases ceiling with _ | permits
  · rfl
  · exact huntil permits

/-- A run of a provider that gives no causes is the run without them. -/
theorem inTurn_bare (site : Site) (script : Script) (ceiling : Option Nat) (events : List Change)
    (endless : Bool) :
    inTurn site script.bare ceiling events endless =
      ⟨(inTurn site script ceiling events endless).trace.bare,
        (inTurn site script ceiling events endless).summary⟩ := by
  have hdone :=
    performed_map TaskRun.hangs_bare ceiling (tasks site script 0 (admitted site events))
  have hreports : ∀ runs : List TaskRun,
      (runs.map TaskRun.bare).filterMap TaskRun.report? = runs.filterMap TaskRun.report? := by
    intro runs
    rw [List.filterMap_map]
    exact List.filterMap_congr fun r _ => r.report?_bare
  have hhung : ∀ runs : List TaskRun,
      (runs.map TaskRun.bare).countP TaskRun.hangs = runs.countP TaskRun.hangs := by
    intro runs
    rw [List.countP_map]
    exact List.countP_congr fun r _ => by rw [Function.comp_apply, r.hangs_bare]
  have htrace : ∀ runs : List TaskRun,
      (runs.map TaskRun.bare).flatMap TaskRun.watched =
        Trace.bare (runs.flatMap TaskRun.watched) := by
    intro runs
    rw [List.flatMap_map, Trace.bare, List.map_flatMap]
    exact congrArg (runs.flatMap ·) (funext TaskRun.watched_bare)
  unfold inTurn
  dsimp only
  rw [tasks_bare, hdone, hreports, hhung, htrace, List.length_map, List.length_map]

/-! ## Other causes -/

/-- Two runs differ in nothing but the causes in their warnings. -/
structure AlikeButCauses (result result' : Result) : Prop where
  trace : result'.trace.bare = result.trace.bare
  requests : result'.trace.requests = result.trace.requests
  calls : result'.trace.calls = result.trace.calls
  notices : result'.trace.notices = result.trace.notices
  levels : result'.trace.lines.map LogLine.level = result.trace.lines.map LogLine.level
  errors : result'.trace.lines.filter LogLine.isError = result.trace.lines.filter LogLine.isError
  summary : result'.summary = result.summary

theorem alikeButCauses_of_bare {result result' : Result}
    (htrace : result'.trace.bare = result.trace.bare)
    (hsummary : result'.summary = result.summary) :
    AlikeButCauses result result' := by
  have hlines : result'.trace.lines.map LogLine.bare = result.trace.lines.map LogLine.bare := by
    rw [← Trace.lines_bare, htrace, Trace.lines_bare]
  have hlevels : ∀ lines : List LogLine,
      lines.map LogLine.level = (lines.map LogLine.bare).map LogLine.level := by
    intro lines
    rw [List.map_map]
    exact List.map_congr_left fun line _ => line.level_bare.symm
  have herrors : ∀ lines : List LogLine,
      lines.filter LogLine.isError = (lines.map LogLine.bare).filter LogLine.isError := by
    intro lines
    induction lines with
    | nil => rfl
    | cons line rest ih =>
      cases line <;> simpa [LogLine.bare, LogLine.isError, LogLine.level] using ih
  refine ⟨htrace, ?_, ?_, ?_, ?_, ?_, hsummary⟩
  · rw [← Trace.requests_bare, htrace, Trace.requests_bare]
  · rw [← Trace.calls_bare, htrace, Trace.calls_bare]
  · rw [← Trace.notices_bare, htrace, Trace.notices_bare]
  · rw [hlevels, hlines, ← hlevels]
  · rw [herrors, hlines, ← herrors]

section Others

variable (site : Site) {script other : Script} (h : other.bare = script.bare)

include h

theorem alikeButCauses_inTurn (ceiling : Option Nat) (events : List Change) (endless : Bool) :
    AlikeButCauses (inTurn site script ceiling events endless)
      (inTurn site other ceiling events endless) := by
  have hbare := inTurn_bare site other ceiling events endless
  rw [h, inTurn_bare] at hbare
  obtain ⟨htrace, hsummary⟩ := Result.mk.inj hbare
  exact alikeButCauses_of_bare htrace.symm hsummary.symm

/-- The tasks that get to run are reported in the same way. -/
theorem reports_of_bare (ceiling : Option Nat) (changes : List Change) :
    (performed ceiling (tasks site other 0 changes)).map TaskRun.report? =
      (performed ceiling (tasks site script 0 changes)).map TaskRun.report? := by
  have hreports : ∀ runs : List TaskRun,
      (performed ceiling (runs.map TaskRun.bare)).map TaskRun.report? =
        (performed ceiling runs).map TaskRun.report? := by
    intro runs
    rw [performed_map TaskRun.hangs_bare, List.map_map]
    exact List.map_congr_left fun r _ => r.report?_bare
  rw [← hreports, ← tasks_bare, h, tasks_bare, hreports]

end Others

end Supervisor

end VolumeSync
