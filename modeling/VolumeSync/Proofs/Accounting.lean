import Mathlib.Data.List.Forall2
import VolumeSync.Proofs.Causes
import VolumeSync.Proofs.Traffic

-- Accounting. What becomes of a call is told once: an error in one warning
-- and in one line of the log, the success of a tag call in one notification,
-- a panic in one line. A request for a session that fails is told in a line
-- alone, since there is no call that a notification could be about.

namespace VolumeSync

/-! ## Answers and notifications -/

def Act.fails : Act → Bool
  | .fail _ => true
  | _ => false

/-- What becomes of a call of this kind. -/
def Behaviour.act (b : Behaviour) : UpdateKind → Act
  | .metadata => b.metadata
  | .tags => b.tags

/-- What becomes of the call. -/
def Script.answer (script : Script) (call : Call) : Act := (script.play call.session).act call.kind

/-- What is notified of a call: every error, and the success of a tag call. -/
def Notice.about? (resource : ObjectRef) : UpdateKind → Act → Option Notice
  | _, .fail f => some (.failure resource f)
  | .tags, .succeed => some (.success resource)
  | _, _ => none

def Notice.isWarning (notice : Notice) : Bool := notice.severity == .warning

def Notice.isNormal (notice : Notice) : Bool := notice.severity == .normal

/-- What is notified of a call says by its severity how the call went. -/
theorem Notice.severity_of_about? {resource : ObjectRef} {kind : UpdateKind} {act : Act}
    {notice : Notice} (h : about? resource kind act = some notice) :
    notice.isWarning = act.fails ∧ notice.isNormal = (kind == .tags && act == .succeed) := by
  cases kind with
  | metadata =>
    cases act with
    | fail f =>
      cases h
      exact ⟨rfl, rfl⟩
    | _ => cases h
  | tags =>
    cases act with
    | succeed =>
      cases h
      exact ⟨rfl, rfl⟩
    | fail f =>
      cases h
      exact ⟨rfl, rfl⟩
    | _ => cases h

namespace Trace

@[simp] theorem notices_append (s t : Trace) : notices (s ++ t) = notices s ++ notices t :=
  List.filterMap_append

@[simp] theorem lines_append (s t : Trace) : lines (s ++ t) = lines s ++ lines t :=
  List.filterMap_append

/-- The notifications are those about the calls, in their order. -/
def Noted (resource : ObjectRef) (b : Behaviour) (t : Trace) : Prop :=
  t.notices = t.calls.filterMap fun call => Notice.about? resource call.kind (b.act call.kind)

theorem Noted.append {resource : ObjectRef} {b : Behaviour} {s t : Trace}
    (hs : s.Noted resource b) (ht : t.Noted resource b) : (s ++ t).Noted resource b := by
  unfold Noted at hs ht ⊢
  rw [notices_append, calls_append, List.filterMap_append, hs, ht]

/-- Every line is a warning that is notified too. -/
def Told (t : Trace) : Prop :=
  t.lines.countP LogLine.isWarning = t.notices.countP Notice.isWarning ∧
    t.lines.countP LogLine.isError = 0

theorem Told.append {s t : Trace} (hs : s.Told) (ht : t.Told) : (s ++ t).Told := by
  obtain ⟨hswarned, hserrors⟩ := hs
  obtain ⟨htwarned, hterrors⟩ := ht
  refine ⟨?_, ?_⟩
  · rw [lines_append, notices_append, List.countP_append, List.countP_append, hswarned, htwarned]
  · rw [lines_append, List.countP_append, hserrors, hterrors]

end Trace

/-! ## One task -/

namespace Reconcile

variable (site : Site) (change : Change) (n : Nat) (b : Behaviour)

theorem noted_tagPhase (saved : Bool) :
    (tagPhase site change n b.tags saved).trace.Noted change.new.objectRef b := by
  obtain ⟨session, metadata, tags⟩ := b
  unfold tagPhase
  split
  · cases tags <;> rfl
  · rfl

theorem noted_metadataPhase :
    (metadataPhase site change n b).trace.Noted change.new.objectRef b := by
  have htags := noted_tagPhase site change n b
  obtain ⟨session, metadata, tags⟩ := b
  unfold metadataPhase
  cases metadata with
  | succeed => exact Trace.Noted.append rfl (htags true)
  | fail f => exact Trace.Noted.append rfl (htags false)
  | panic payload => rfl
  | hang => rfl

theorem noted_run : (run site change n b).trace.Noted change.new.objectRef b := by
  have hmetadata := noted_metadataPhase site change n b
  unfold run
  split
  · cases b.session with
    | granted => exact Trace.Noted.append rfl hmetadata
    | unavailable => rfl
    | fail f => rfl
    | panic payload => rfl
    | hang => rfl
  · rfl

theorem told_tagPhase (act : Act) (saved : Bool) :
    (tagPhase site change n act saved).trace.Told := by
  unfold tagPhase
  split
  · cases act <;> exact ⟨rfl, rfl⟩
  · exact ⟨rfl, rfl⟩

theorem told_metadataPhase : (metadataPhase site change n b).trace.Told := by
  unfold metadataPhase
  cases b.metadata with
  | succeed => exact Trace.Told.append ⟨rfl, rfl⟩ (told_tagPhase site change n b.tags true)
  | fail f => exact Trace.Told.append ⟨rfl, rfl⟩ (told_tagPhase site change n b.tags false)
  | panic payload => exact ⟨rfl, rfl⟩
  | hang => exact ⟨rfl, rfl⟩

/-- What a task itself logs, it notifies. -/
theorem told_run : (run site change n b).trace.Told := by
  unfold run
  split
  · cases b.session with
    | granted => exact Trace.Told.append ⟨rfl, rfl⟩ (told_metadataPhase site change n b)
    | unavailable => exact ⟨rfl, rfl⟩
    | fail f => exact ⟨rfl, rfl⟩
    | panic payload => exact ⟨rfl, rfl⟩
    | hang => exact ⟨rfl, rfl⟩
  · exact ⟨rfl, rfl⟩

/-- A task that gets no session notifies nothing. -/
theorem notices_of_no_session
    (h : (∃ f, (run site change n b).ending = .sessionFailed f) ∨
      (run site change n b).ending = .finished .noSession) :
    (run site change n b).trace.notices = [] := by
  have hends := ends_run site change n b
  rcases h with ⟨f, h⟩ | h
  · rw [h] at hends
    cases hends with
    | refused hm hs =>
      rw [run, if_pos hm, hs]
      rfl
  · rw [h] at hends
    cases hends with
    | noSession hm hs =>
      rw [run, if_pos hm, hs]
      rfl

end Reconcile

/-- The supervisor warns of a request for a session that failed, and of
nothing else. -/
theorem Ending.warnings_line? (e : Ending) :
    e.line?.toList.countP LogLine.isWarning =
      if e.report?.any (fun r => r.1.isFailed) then 1 else 0 := by
  cases e <;> rfl

/-- The supervisor's errors are the panics. -/
theorem Ending.errors_line? (e : Ending) :
    e.line?.toList.countP LogLine.isError =
      if e.report?.any (fun r => r.1.isPanicked) then 1 else 0 := by
  cases e <;> rfl

namespace TaskRun

/-- The task ends in a panic. -/
def panics (r : TaskRun) : Bool := r.ending.report?.any fun report => report.1.isPanicked

theorem notices_watched (r : TaskRun) : r.watched.notices = r.trace.notices := by
  unfold watched
  rw [Trace.notices_append]
  rcases r.ending.line? with _ | line
  · exact List.append_nil _
  · exact List.append_nil _

theorem lines_watched (r : TaskRun) : r.watched.lines = r.trace.lines ++ r.ending.line?.toList := by
  unfold watched
  rw [Trace.lines_append]
  rcases r.ending.line? with _ | line
  · rfl
  · rfl

end TaskRun

/-! ## The tasks of a run -/

namespace Supervisor

theorem exists_run_of_mem_tasks {site : Site} {script : Script} {n : Nat} {changes : List Change}
    {r : TaskRun} (h : r ∈ tasks site script n changes) :
    ∃ change k, r = Reconcile.run site change k (script.play k) := by
  obtain ⟨i, hi⟩ := List.mem_iff_getElem?.mp h
  rw [getElem?_tasks, Option.map_eq_some_iff] at hi
  obtain ⟨change, _, hr⟩ := hi
  exact ⟨change, _, hr.symm⟩

/-- What is notified of a call of a run. -/
def noticeOf? (site : Site) (script : Script) (events : List Change) (call : Call) :
    Option Notice :=
  (askedBy site events call.session).bind fun change =>
    Notice.about? change.new.objectRef call.kind (script.answer call)

section Performed

variable {site : Site} {script : Script} {ceiling : Option Nat} {events : List Change}

/-- Every call of a run comes of the change that asked for its session. -/
theorem asked_of_mem_performed {r : TaskRun}
    (hr : r ∈ performed ceiling (tasks site script 0 (admitted site events))) {call : Call}
    (hcall : call ∈ r.trace.calls) :
    ∃ change, askedBy site events call.session = some change ∧
      r = Reconcile.run site change call.session (script.play call.session) := by
  have hmem := (performed_isPrefix ceiling _).subset hr
  obtain ⟨k, change, hk, hget, hrun⟩ := asked_of_mem_calls hmem hcall
  rw [Nat.zero_add] at hk
  exact ⟨change, by rw [askedBy, hk]; exact hget, hrun⟩

/-- All calls of a task are noted, whatever session the task has asked for. -/
theorem notices_of_mem_performed {r : TaskRun}
    (hr : r ∈ performed ceiling (tasks site script 0 (admitted site events))) :
    r.trace.notices = r.trace.calls.filterMap (noticeOf? site script events) := by
  have hmem := (performed_isPrefix ceiling _).subset hr
  -- The first call gives away which change the task is about. Without a call
  -- there is nothing to note, whichever it is.
  rcases hcalls : r.trace.calls with _ | ⟨first, rest⟩
  · obtain ⟨change, k, rfl⟩ := exists_run_of_mem_tasks hmem
    have hnoted := Reconcile.noted_run site change k (script.play k)
    rw [Trace.Noted, hcalls] at hnoted
    exact hnoted
  · have hfirst : first ∈ r.trace.calls := hcalls ▸ List.mem_cons_self
    obtain ⟨change, hasked, hrun⟩ := asked_of_mem_performed hr hfirst
    have hnoted := Reconcile.noted_run site change first.session (script.play first.session)
    rw [← hrun] at hnoted
    rw [hnoted, ← hcalls]
    refine List.filterMap_congr fun call hcall => ?_
    have hsession : call.session = first.session := by
      have hown := (requests_of_mem_tasks hmem call hcall).symm.trans
        (requests_of_mem_tasks hmem first hfirst)
      exact (List.cons.inj hown).1
    rw [noticeOf?, Script.answer, hsession, hasked, Option.bind_some]

/-- The notifications of a run are those about its calls, in their order. -/
theorem notices_inTurn (endless : Bool) :
    (inTurn site script ceiling events endless).trace.notices =
      (inTurn site script ceiling events endless).trace.calls.filterMap
        (noticeOf? site script events) := by
  change Trace.notices (List.flatMap TaskRun.watched _) =
    (Trace.calls (List.flatMap TaskRun.watched _)).filterMap (noticeOf? site script events)
  rw [TaskRun.calls_flatMap_watched, Trace.notices, List.filterMap_flatMap, List.filterMap_flatMap]
  refine List.flatMap_congr fun r hr => ?_
  rw [← notices_of_mem_performed hr]
  exact r.notices_watched

/-- The warnings of a run are the notifications of failures and the requests
for a session that failed. -/
def Balanced (script : Script) (t : Trace) : Prop :=
  t.lines.countP LogLine.isWarning =
    t.notices.countP Notice.isWarning + t.requests.countP fun k => (script.play k).session.fails

theorem Balanced.append {s t : Trace} (hs : Balanced script s) (ht : Balanced script t) :
    Balanced script (s ++ t) := by
  unfold Balanced at hs ht ⊢
  rw [Trace.lines_append, Trace.notices_append, Trace.requests_append, List.countP_append,
    List.countP_append, List.countP_append]
  omega

theorem balanced_watched (site : Site) (change : Change) (k : Nat) :
    Balanced script (Reconcile.run site change k (script.play k)).watched := by
  have htold := (Reconcile.told_run site change k (script.play k)).1
  have hrefused := (Reconcile.ends_run site change k (script.play k)).classified.2.2.1
  rw [Balanced, TaskRun.lines_watched, TaskRun.notices_watched, TaskRun.requests_watched,
    List.countP_append, htold, Ending.warnings_line?, hrefused, Reconcile.requests_run,
    Reconcile.isRefused]
  rcases change.isMaterial with _ | _
  · rfl
  · rcases hfails : (script.play k).session.fails with _ | _
    · simp [hfails]
    · simp [hfails]

theorem balanced_inTurn (endless : Bool) :
    Balanced script (inTurn site script ceiling events endless).trace := by
  have htask : ∀ r ∈ performed ceiling (tasks site script 0 (admitted site events)),
      Balanced script r.watched := by
    intro r hr
    obtain ⟨change, k, rfl⟩ := exists_run_of_mem_tasks ((performed_isPrefix ceiling _).subset hr)
    exact balanced_watched site change k
  change Balanced script (List.flatMap TaskRun.watched _)
  generalize performed ceiling (tasks site script 0 (admitted site events)) = runs at htask ⊢
  induction runs with
  | nil => rfl
  | cons r rest ih =>
    rw [List.flatMap_cons]
    exact (htask r List.mem_cons_self).append (ih fun x hx => htask x (List.mem_cons_of_mem _ hx))

/-- The errors of a run are the panics of its tasks. -/
theorem errors_inTurn (endless : Bool) :
    (inTurn site script ceiling events endless).trace.lines.countP LogLine.isError =
      (performed ceiling (tasks site script 0 (admitted site events))).countP TaskRun.panics := by
  have htask : ∀ r ∈ performed ceiling (tasks site script 0 (admitted site events)),
      r.watched.lines.countP LogLine.isError = if r.panics then 1 else 0 := by
    intro r hr
    obtain ⟨change, k, rfl⟩ := exists_run_of_mem_tasks ((performed_isPrefix ceiling _).subset hr)
    have htold := (Reconcile.told_run site change k (script.play k)).2
    rw [TaskRun.lines_watched, List.countP_append, htold, Ending.errors_line?, Nat.zero_add]
    rfl
  change (Trace.lines (List.flatMap TaskRun.watched _)).countP LogLine.isError = _
  generalize performed ceiling (tasks site script 0 (admitted site events)) = runs at htask ⊢
  induction runs with
  | nil => rfl
  | cons r rest ih =>
    rw [List.flatMap_cons, Trace.lines_append, List.countP_append, List.countP_cons,
      htask r List.mem_cons_self, ih fun x hx => htask x (List.mem_cons_of_mem _ hx), Nat.add_comm]

/-- A run that comes to its end has counted the panics. -/
theorem panicked_of_summary {endless : Bool} {s : Summary}
    (h : (inTurn site script ceiling events endless).summary = some s) :
    s.panicked = (performed ceiling (tasks site script 0 (admitted site events))).countP
      TaskRun.panics := by
  have hsome := (isSome_summary_iff site script ceiling events endless).mp
    (Option.isSome_iff_exists.mpr ⟨s, h⟩)
  obtain ⟨_, hhung, hpermit⟩ := hsome
  have hzero : ceiling = some 0 → tasks site script 0 (admitted site events) = [] := by
    intro hceiling
    have hnone : admitted site events = [] := by
      by_contra hsome
      exact hpermit ⟨hceiling, hsome⟩
    rw [hnone]
    rfl
  obtain ⟨_, _, _, hcounts⟩ := inTurn_summary h
  rw [performed_eq_self hzero hhung, hcounts.panicked, List.countP_filterMap]
  refine List.countP_congr fun r _ => ?_
  rw [TaskRun.report?, TaskRun.panics]
  rcases r.ending.report? with _ | report
  · exact Iff.rfl
  · exact Iff.rfl

end Performed

/-! ## The law -/

/-- The elements that are kept of a list go with those that are kept of what
is made of it. -/
theorem forall₂_filterMap {α β : Type} {make : α → Option β} {p : α → Bool} {q : β → Bool}
    {R : α → β → Prop} {xs : List α}
    (hkept : ∀ x ∈ xs, p x = true → ∃ y, make x = some y ∧ q y = true ∧ R x y)
    (hleft : ∀ x ∈ xs, p x = false → ∀ y, make x = some y → q y = false) :
    List.Forall₂ R (xs.filter p) ((xs.filterMap make).filter q) := by
  induction xs with
  | nil => exact .nil
  | cons x xs ih =>
    have ih := ih (fun z hz => hkept z (List.mem_cons_of_mem _ hz))
      (fun z hz => hleft z (List.mem_cons_of_mem _ hz))
    rcases hp : p x with _ | _
    · rw [List.filter_cons_of_neg (by simp [hp])]
      rcases hmake : make x with _ | y
      · rwa [List.filterMap_cons_none hmake]
      · have hq := hleft x List.mem_cons_self hp y hmake
        rwa [List.filterMap_cons_some hmake, List.filter_cons_of_neg (by simp [hq])]
    · obtain ⟨y, hmake, hq, hR⟩ := hkept x List.mem_cons_self hp
      rw [List.filter_cons_of_pos hp, List.filterMap_cons_some hmake, List.filter_cons_of_pos hq]
      exact .cons hR ih

/-- The call is one of the task of the change. -/
def IsCallOf (site : Site) (script : Script) (events : List Change) (change : Change)
    (call : Call) : Prop :=
  askedBy site events call.session = some change ∧
    call ∈ (Reconcile.run site change call.session (script.play call.session)).trace.calls

/-- How what a run leaves hangs together: its calls, its notifications, its
lines and its numbers. -/
structure Accounts (site : Site) (script : Script) (ceiling : Option Nat) (events : List Change)
    (result : Result) : Prop where
  /-- The warnings are about the calls that failed, one about each. -/
  warnings : List.Forall₂
    (fun call notice => ∃ change f, IsCallOf site script events change call ∧
      script.answer call = .fail f ∧ notice = .failure change.new.objectRef f)
    (result.trace.calls.filter fun call => (script.answer call).fails)
    (result.trace.notices.filter Notice.isWarning)
  /-- The other notifications are about the tag calls that succeeded. -/
  successes : List.Forall₂
    (fun call notice => ∃ change, IsCallOf site script events change call ∧
      notice = .success change.new.objectRef)
    (result.trace.calls.filter fun call => call.kind == .tags && script.answer call == .succeed)
    (result.trace.notices.filter Notice.isNormal)
  /-- A warning in the log is notified too, or is about a request for a session. -/
  balance : result.trace.lines.countP LogLine.isWarning =
    result.trace.notices.countP Notice.isWarning +
      result.trace.requests.countP fun k => (script.play k).session.fails
  /-- An error in the log is a panic. -/
  errors : result.trace.lines.countP LogLine.isError =
    (ran site script ceiling events).countP fun x => Reconcile.playsPanic x.1 x.2
  counted : ∀ s, result.summary = some s →
    s.panicked = result.trace.lines.countP LogLine.isError
  /-- What is seen is seen of the tasks, and of one without a session no
  notification is. -/
  silent : result.trace =
      (performed ceiling (tasks site script 0 (admitted site events))).flatMap TaskRun.watched ∧
    ∀ r ∈ performed ceiling (tasks site script 0 (admitted site events)),
      (∃ f, r.ending = .sessionFailed f) ∨ r.ending = .finished .noSession →
      r.watched.notices = []

section Laws

variable (site : Site) (script : Script) (ceiling : Option Nat) (events : List Change)
  (endless : Bool)

theorem exists_isCallOf {call : Call}
    (h : call ∈ (inTurn site script ceiling events endless).trace.calls) :
    ∃ change, IsCallOf site script events change call := by
  change call ∈ Trace.calls (List.flatMap TaskRun.watched _) at h
  rw [TaskRun.calls_flatMap_watched] at h
  obtain ⟨r, hr, hcall⟩ := List.mem_flatMap.mp h
  obtain ⟨change, hasked, hrun⟩ := asked_of_mem_performed hr hcall
  rw [hrun] at hcall
  exact ⟨change, hasked, hcall⟩

/-- What is notified of a call of a run says how the call went. -/
theorem severity_of_noticeOf? {call : Call} {notice : Notice}
    (h : noticeOf? site script events call = some notice) :
    notice.isWarning = (script.answer call).fails ∧
      notice.isNormal = (call.kind == .tags && script.answer call == .succeed) := by
  obtain ⟨change, _, hnotice⟩ := Option.bind_eq_some_iff.mp h
  exact Notice.severity_of_about? hnotice

theorem accounts_inTurn :
    Accounts site script ceiling events (inTurn site script ceiling events endless) := by
  refine ⟨?_, ?_, balanced_inTurn endless, ?_, ?_, rfl, ?_⟩
  · rw [notices_inTurn]
    refine forall₂_filterMap ?_ ?_
    · intro call hcall hfails
      obtain ⟨change, hcallOf⟩ := exists_isCallOf site script ceiling events endless hcall
      rcases hanswer : script.answer call with _ | f | payload | _
      · rw [hanswer] at hfails
        cases hfails
      · have hnotice : noticeOf? site script events call =
            some (.failure change.new.objectRef f) := by
          rw [noticeOf?, hcallOf.1, hanswer, Option.bind_some]
          cases call.kind <;> rfl
        exact ⟨_, hnotice, rfl, change, f, hcallOf, rfl, rfl⟩
      · rw [hanswer] at hfails
        cases hfails
      · rw [hanswer] at hfails
        cases hfails
    · intro call _ hfails notice hnotice
      rw [(severity_of_noticeOf? site script events hnotice).1, hfails]
  · rw [notices_inTurn]
    refine forall₂_filterMap ?_ ?_
    · intro call hcall hsucceeds
      obtain ⟨change, hcallOf⟩ := exists_isCallOf site script ceiling events endless hcall
      simp only [Bool.and_eq_true, beq_iff_eq] at hsucceeds
      obtain ⟨hkind, hanswer⟩ := hsucceeds
      have hnotice : noticeOf? site script events call = some (.success change.new.objectRef) := by
        rw [noticeOf?, hcallOf.1, hanswer, hkind]
        rfl
      exact ⟨_, hnotice, rfl, change, hcallOf, rfl⟩
    · intro call _ hsucceeds notice hnotice
      rw [(severity_of_noticeOf? site script events hnotice).2, hsucceeds]
  · rw [errors_inTurn]
    exact countP_performed site script ceiling events _ _ fun change n b =>
      (Reconcile.ends_run site change n b).classified.2.1
  · intro s hs
    rw [errors_inTurn, panicked_of_summary hs]
  · intro r hr hno
    obtain ⟨change, k, rfl⟩ := exists_run_of_mem_tasks ((performed_isPrefix ceiling _).subset hr)
    rw [TaskRun.notices_watched]
    exact Reconcile.notices_of_no_session site change k (script.play k) hno

/-- Every failure is told, and no more often than it happened. A run's
warnings are one about each call that failed, its other notifications one
about each tag call that succeeded, in the order of the calls and with the
volume as the task of the call saw it. The log warns of each notified failure
and of each request for a session that failed, and has an error for each task
that panicked. Of an error nothing but the outermost text goes anywhere but
into the log: with other causes the run is the same up to its warnings. -/
theorem every_failure_is_accounted_for (h : ceiling.getD 0 ≤ maxPermits) :
    ∃ result, run site script ceiling events endless = .ok result ∧
      Accounts site script ceiling events result ∧
      ∀ other : Script, other.bare = script.bare →
        ∃ result', run site other ceiling events endless = .ok result' ∧
          AlikeButCauses result result' ∧
          (performed ceiling (tasks site other 0 (admitted site events))).map TaskRun.report? =
            (performed ceiling (tasks site script 0 (admitted site events))).map
              TaskRun.report? := by
  refine ⟨_, run_eq_inTurn site script ceiling events endless h,
    accounts_inTurn site script ceiling events endless, fun other hother => ?_⟩
  exact ⟨_, run_eq_inTurn site other ceiling events endless h,
    alikeButCauses_inTurn site hother ceiling events endless,
    reports_of_bare site hother ceiling (admitted site events)⟩

end Laws

/-- A task whose metadata call fails and whose tag call panics, and one that
is refused its session: one warning is notified, two are logged and one panic
is, and other causes change what is logged alone. -/
theorem a_failure_before_a_panic :
    let seen : Snapshot := { Snapshot.blank with driver := some "d" }
    let bound : Change := ⟨some seen, { seen with phase := .bound }⟩
    let script (causes : List String) : Script :=
      [⟨.granted, .fail ⟨"no", causes⟩, .panic .other⟩, ⟨.fail ⟨"no", causes⟩, .hang, .hang⟩]
    (some 1 : Option Nat).getD 0 ≤ maxPermits ∧
    ∃ result result', run ⟨"d", "p", .empty⟩ (script ["cause"]) (some 1) [bound, bound] false
        = .ok result ∧
      run ⟨"d", "p", .empty⟩ (script []) (some 1) [bound, bound] false = .ok result' ∧
      result.trace.notices = [.failure seen.objectRef (.plain "no")] ∧
      result'.trace.notices = result.trace.notices ∧
      result.trace.lines.countP LogLine.isWarning = 2 ∧
      result.trace.lines.countP LogLine.isError = 1 ∧
      result'.trace.lines.map LogLine.message ≠ result.trace.lines.map LogLine.message := by
  intro seen bound script
  have hle : (some 1 : Option Nat).getD 0 ≤ maxPermits := by decide
  obtain ⟨result, hrun, haccounts, hcauses⟩ := every_failure_is_accounted_for ⟨"d", "p", .empty⟩
    (script ["cause"]) (some 1) [bound, bound] false hle
  obtain ⟨result', hrun', halike, _⟩ := hcauses (script []) rfl
  have hnotices : result.trace.notices = [.failure seen.objectRef (.plain "no")] := by
    obtain rfl := Except.ok.inj hrun
    decide
  have hrequests : result.trace.requests = [0, 1] := by
    obtain rfl := Except.ok.inj hrun
    decide
  refine ⟨hle, result, result', hrun, hrun', hnotices, halike.notices, ?_, ?_, ?_⟩
  · rw [haccounts.balance, hnotices, hrequests]
    rfl
  · rw [haccounts.errors]
    decide
  · obtain rfl := Except.ok.inj hrun
    obtain rfl := Except.ok.inj hrun'
    decide

end Supervisor

end VolumeSync
