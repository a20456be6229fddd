import VolumeSync.Proofs.Accounting
import VolumeSync.Proofs.EventPublishing
import VolumeSync.Proofs.FollowedCluster
import VolumeSync.Watcher

-- Runs of the watcher as a whole. The tasks are those of the changes that the
-- followed answers give, so all that is known of the memory and of the
-- supervisor is known of the watcher; and each of their notifications is tried
-- once. What fails on the way is told in the log and makes no other difference.

namespace VolumeSync

/-- What becomes of the notifications of a run. Those that are kept make no
request. -/
def NoticeSink.Tries (notices : List Notice) (attempts : List EventLog.Attempt) :
    NoticeSink → Prop
  | .memory => attempts = []
  | .cluster statuses => attempts.map (·.notice) = notices ∧
      ∀ before a later, attempts = before ++ a :: later → EventLog.ComesAfter statuses before a

namespace Watcher

open Cluster Supervisor

/-- The changes that the answers give. -/
def changesOf (answers : List Answer) : List Change :=
  SnapshotCache.fresh.changes (answers.flatMap Answer.steps)

theorem changesFrom_eq {c rest : Cluster} {wantsList : Bool} {answers : List Answer}
    (h : Follows wantsList c answers rest) :
    c.changesFrom .fresh wantsList = changesOf answers := by
  rw [changesFrom, h.filterMap_step?, SnapshotCache.changes_append]
  split
  · exact List.append_nil _
  · exact List.append_nil _

/-- Where the stream stays open there are no numbers. -/
theorem inTurn_endless (site : Site) (script : Script) (ceiling : Option Nat)
    (events : List Change) :
    inTurn site script ceiling events true =
      ⟨(inTurn site script ceiling events true).trace, none⟩ := by
  simp [inTurn]

/-- How what a run leaves hangs together. -/
structure Watches (site : Site) (script : Script) (ceiling : Option Nat) (sink : NoticeSink)
    (answers : List Answer) (attempts : List EventLog.Attempt) (r : Result) : Prop where
  requests : r.requests = answers.map Answer.request
  /-- What is seen of the tasks is seen of them in turn. -/
  trace : r.trace = (inTurn site script ceiling (changesOf answers) true).trace
  accounts : Accounts site script ceiling (changesOf answers) ⟨r.trace, none⟩
  tries : sink.Tries r.trace.notices attempts
  publications : r.publications = EventLog.requests attempts
  /-- Each failure of an answer has its line, and each notification that did
  not become an event. -/
  lines : r.lines = List.replicate (answers.map Answer.failures).sum .watchFailed ++
    r.trace.lines ++ attempts.filterMap unrecorded?

/-- What comes of the notifications of a run. Those that are kept are not tried. -/
def attemptsOf (sink : NoticeSink) (notices : List Notice) : List EventLog.Attempt :=
  match sink with
  | .memory => []
  | .cluster statuses => EventLog.publish [] notices statuses

theorem tries_attemptsOf (sink : NoticeSink) (notices : List Notice) :
    sink.Tries notices (attemptsOf sink notices) := by
  cases sink with
  | memory => rfl
  | cluster statuses => exact EventLog.every_notification_is_tried_once notices statuses

/-- What a run leaves: what is seen of the supervisor's tasks in turn on the
changes of the reports, and an attempt for each of their notifications. -/
def left (site : Site) (script : Script) (ceiling : Option Nat) (cluster : Cluster)
    (sink : NoticeSink) : Result :=
  let trace := (inTurn site script ceiling (cluster.changesFrom .fresh true) true).trace
  let attempts := attemptsOf sink trace.notices
  { requests := cluster.follow.filterMap Sighting.request?
    trace
    publications := EventLog.requests attempts
    lines := List.replicate (cluster.follow.countP Sighting.isFailure) .watchFailed ++
      trace.lines ++ attempts.filterMap unrecorded? }

theorem run_eq_left (site : Site) (script : Script) {ceiling : Option Nat} (cluster : Cluster)
    (sink : NoticeSink) (h : ceiling.getD 0 ≤ maxPermits) :
    run site script ceiling cluster sink = .ok (left site script ceiling cluster sink) := by
  have hrun := run_eq_inTurn site script ceiling (cluster.changesFrom .fresh true) true h
  rw [changesFrom, ← follow] at hrun
  have hfailures : (cluster.follow.filter Sighting.isFailure).map (fun _ => LogLine.watchFailed) =
      List.replicate (cluster.follow.countP Sighting.isFailure) .watchFailed := by
    rw [List.map_const', List.countP_eq_length_filter]
  unfold run
  simp only [hrun, hfailures]
  rfl

/-- The tasks of a run are those of the changes that the answers give, one
after the other, and what is known of any run of the supervisor is known of
them. Each answer is to a request of its own. Every notification is tried once
if it is to become an event. What failed has a line of its own in the log. -/
theorem a_run_is_what_its_answers_give (site : Site) (script : Script) (ceiling : Option Nat)
    (cluster : Cluster) (sink : NoticeSink) (h : ceiling.getD 0 ≤ maxPermits) :
    ∃ result answers rest attempts, run site script ceiling cluster sink = .ok result ∧
      Follows true cluster answers rest ∧
      Watches site script ceiling sink answers attempts result := by
  obtain ⟨answers, rest, hfollows⟩ := exists_follows true cluster
  let trace := (inTurn site script ceiling (changesOf answers) true).trace
  have haccounts := accounts_inTurn site script ceiling (changesOf answers) true
  rw [inTurn_endless] at haccounts
  refine ⟨_, answers, rest, attemptsOf sink trace.notices, run_eq_left site script cluster sink h,
    hfollows, ?_⟩
  rw [left, follow, changesFrom_eq hfollows, hfollows.filterMap_request?,
    hfollows.countP_isFailure]
  exact ⟨rfl, rfl, haccounts, tries_attemptsOf sink trace.notices, rfl, rfl⟩

/-- Only a ceiling above what there can be keeps the watcher from running. -/
theorem run_eq_error_iff (site : Site) (script : Script) (ceiling : Option Nat)
    (cluster : Cluster) (sink : NoticeSink) :
    run site script ceiling cluster sink = .error {} ↔ maxPermits < ceiling.getD 0 := by
  constructor
  · intro herror
    by_contra hle
    rw [run_eq_left site script cluster sink (Nat.not_lt.mp hle)] at herror
    cases herror
  · intro hlt
    simp only [run, Supervisor.run, if_neg (Nat.not_le.mpr hlt)]
    rfl

/-- Requests to the cluster that fail make no difference to the tasks and to
what becomes of their notifications. Nothing but their own lines goes. -/
theorem failed_requests_make_no_difference (site : Site) (script : Script) {ceiling : Option Nat}
    (cluster : Cluster) (sink : NoticeSink) {result : Result}
    (h : run site script ceiling cluster sink = .ok result) :
    ∃ result', run site script ceiling cluster.reliable sink = .ok result' ∧
      result'.trace = result.trace ∧ result'.publications = result.publications ∧
      result'.lines.filter (· != .watchFailed) = result.lines.filter (· != .watchFailed) := by
  have hle : ceiling.getD 0 ≤ maxPermits := by
    by_contra hlt
    rw [(run_eq_error_iff site script ceiling cluster sink).mpr (Nat.not_le.mp hlt)] at h
    cases h
  rw [run_eq_left site script cluster sink hle] at h
  obtain rfl := Except.ok.inj h
  refine ⟨_, run_eq_left site script cluster.reliable sink hle, ?_⟩
  rw [left, left, changesFrom_reliable]
  refine ⟨rfl, rfl, ?_⟩
  simp [List.filter_append]

end Watcher

end VolumeSync
