import VolumeSync.Proofs.Interleaving
import VolumeSync.Proofs.Supervision

-- The run on one thread is one of the orders in which the supervisor and
-- its tasks may move: the whole stream first, then each task from its
-- permit to its end or until it hangs, and last the ended tasks.

namespace VolumeSync

namespace Supervisor.Pool

variable {site : Site} {provider : Provider} {feed : Feed} {p : Pool}

/-! ## The stream -/

/-- The tasks of a list of changes are those of the admitted ones. -/
theorem map_change_tasks (site : Site) (events : List Change) (n : Nat) :
    ((Feed.ofList events).tasks site n).map (·.change) = admitted site (events.take n) := by
  induction n with
  | zero => rfl
  | succ n ih =>
    rw [Feed.tasks_succ, List.map_append, ih, List.take_add_one, admitted_append]
    congr 1
    unfold Feed.task? Feed.ofList admitted
    rcases events[n]? with _ | change
    · rfl
    · rw [Option.bind_some]
      by_cases hc : Snapshot.comesFrom site.provisioner (some change.new) = true
      · simp [hc]
      · simp [hc]

/-- The supervisor may take all changes before any task begins. -/
theorem steps_stream (site : Site) (provider : Provider) (ceiling : Option Nat)
    (events : List Change) (n : Nat) (hn : n ≤ events.length) :
    Steps site provider (Feed.ofList events) (start ceiling) { start ceiling with
      taken := n
      waiting := (Feed.ofList events).tasks site n
      summary :=
        ⟨foreign site (events.take n), (admitted site (events.take n)).length, 0, 0, 0⟩ } := by
  induction n with
  | zero => exact Steps.refl
  | succ n ih =>
    have hget : Feed.ofList events n = some events[n] := List.getElem?_eq_getElem hn
    have htake : events.take (n + 1) = events.take n ++ [events[n]] :=
      List.take_succ_eq_append_getElem hn
    refine (ih (Nat.le_of_succ_le hn)).snoc (m := .consume) ?_
    have hfeed : (Feed.ofList events).task? site n =
        if Snapshot.comesFrom site.provisioner (some events[n].new) then some ⟨n, events[n]⟩
        else none := by
      rw [Feed.task?, hget, Option.bind_some]
    simp only [move?, hget, Option.map_some, receive, Feed.tasks_succ, hfeed, htake,
      admitted_append, foreign_append, List.length_append]
    by_cases hc : Snapshot.comesFrom site.provisioner (some events[n].new) = true
    · simp [hc, admitted, foreign]
    · simp [hc, admitted, foreign]

/-! ## One task -/

/-- A task at the last place may do all it has to do. -/
theorem steps_acts (site : Site) (provider : Provider) (feed : Feed) {running : List Running}
    {task : Task} {left : Option TaskRun} {xs : Trace} {ending : Ending}
    (hr : p.running = running ++ [⟨task, left⟩])
    (hplan : p.plan site provider ⟨task, left⟩ = ⟨xs, ending⟩) :
    ∃ left', Steps site provider feed p { p with
        running := running ++ [⟨task, left'⟩]
        trace := p.trace ++ xs.map fun effect => (task.ticket, effect) } ∧
      plan site provider { p with
        running := running ++ [⟨task, left'⟩]
        trace := p.trace ++ xs.map fun effect => (task.ticket, effect) } ⟨task, left'⟩ =
        ⟨[], ending⟩ := by
  induction xs generalizing p left with
  | nil =>
    refine ⟨left, ?_, ?_⟩
    · rw [List.map_nil, List.append_nil, ← hr]
      exact Steps.refl
    · rw [List.map_nil, List.append_nil, ← hr]
      exact hplan
  | cons effect rest ih =>
    have hget : p.running[running.length]? = some ⟨task, left⟩ := by
      rw [hr]
      exact List.getElem?_concat_length
    have hmove : p.move? site provider feed (.act running.length) = some { p with
        running := running ++ [⟨task, some ⟨rest, ending⟩⟩]
        trace := p.trace ++ [(task.ticket, effect)] } := by
      simp only [move?, act?, hget, hplan]
      rw [hr, List.set_append_right _ _ (Nat.le_refl _), Nat.sub_self]
      rfl
    obtain ⟨left', hsteps, hleft⟩ := ih (p := { p with
        running := running ++ [⟨task, some ⟨rest, ending⟩⟩]
        trace := p.trace ++ [(task.ticket, effect)] }) rfl rfl
    refine ⟨left', ?_, ?_⟩
    · have hall := (Steps.single hmove).trans hsteps
      simp only [List.append_assoc] at hall
      exact hall
    · simp only [List.append_assoc] at hleft
      exact hleft

/-- A task that has done all it has to do may end, unless it hangs. -/
theorem finish?_last {running : List Running} {task : Task} {left : Option TaskRun}
    {ending : Ending} {report : TaskReport} {lines : List LogLine}
    (hr : p.running = running ++ [⟨task, left⟩])
    (hplan : p.plan site provider ⟨task, left⟩ = ⟨[], ending⟩)
    (hreport : ending.report? = some (report, lines)) :
    p.finish? site provider running.length = some { p with
      running
      ended := p.ended ++ [⟨task, report⟩]
      free := p.free.map (· + 1)
      held := p.held.erase task.ticket
      trace := p.trace ++ lines.map fun line => (task.ticket, .logged line) } := by
  have hget : p.running[running.length]? = some ⟨task, left⟩ := by
    rw [hr]
    exact List.getElem?_concat_length
  have herase : p.running.eraseIdx running.length = running := by
    rw [hr, List.eraseIdx_append_of_length_le (Nat.le_refl _), Nat.sub_self]
    exact List.append_nil _
  simp only [finish?, hget, hplan, hreport, Option.map_some, herase]

/-- The first task that waits may go from its permit to its end. -/
theorem exists_steps_task (site : Site) (provider : Provider) (feed : Feed) {task : Task}
    {rest : List Task} {free : Option Nat} (hw : p.waiting = task :: rest)
    (hf : p.free = free.map (· + 1)) :
    let r := Reconcile.run site task.change p.seen.requests.length
      (provider task.ticket p.seen.requests.length)
    ∃ q, Steps site provider feed p q ∧ q.waiting = rest ∧
      q.free = (if r.hangs then free else p.free) ∧
      q.running.length = p.running.length + (if r.hangs then 1 else 0) ∧
      q.seen = p.seen ++ r.watched ∧
      q.ended.map (·.report) = p.ended.map (·.report) ++ r.report?.toList ∧
      q.summary = p.summary := by
  intro r
  obtain ⟨held, hacquire⟩ : ∃ held, p.acquire? 0 = some { p with
      waiting := rest, running := p.running ++ [⟨task, none⟩], free, held } := by
    unfold acquire?
    rcases free with _ | permits
    · rw [hw, show p.free = none from hf]
      exact ⟨p.held, rfl⟩
    · rw [hw, show p.free = some (permits + 1) from hf]
      exact ⟨p.held ++ [task.ticket], rfl⟩
  obtain ⟨left, hacts, hplan⟩ := steps_acts site provider feed
    (p := { p with waiting := rest, running := p.running ++ [⟨task, none⟩], free, held }) rfl
    (show plan site provider _ ⟨task, none⟩ = ⟨r.trace, r.ending⟩ from rfl)
  have hsteps := (Steps.single (m := .acquire 0) hacquire).trans hacts
  by_cases hh : r.hangs = true
  -- One that hangs stays where it is, with its permit; any other ends.
  · refine ⟨_, hsteps, rfl, (if_pos hh).symm, ?_, ?_, ?_, rfl⟩
    · simp [hh]
    · have hline : r.ending.line? = none := by
        rw [beq_iff_eq.mp hh]
        rfl
      simp [seen, TaskRun.watched, hline, Function.comp_def]
    · have hnone : r.report? = none := by
        rw [TaskRun.report?, beq_iff_eq.mp hh]
        rfl
      simp [hnone]
  · obtain ⟨report, lines, hreport, hlines⟩ : ∃ report lines,
        r.ending.report? = some (report, lines) ∧ lines = r.ending.line?.toList := by
      unfold TaskRun.hangs at hh
      cases hend : r.ending with
      | finished outcome => exact ⟨_, _, rfl, rfl⟩
      | sessionFailed f => exact ⟨_, _, rfl, rfl⟩
      | panicked payload => exact ⟨_, _, rfl, rfl⟩
      | hung => exact absurd (beq_iff_eq.mpr hend) hh
    refine ⟨_, hsteps.snoc (m := .finish p.running.length) (finish?_last rfl hplan hreport), rfl,
      ?_, ?_, ?_, ?_, rfl⟩
    · rw [if_neg hh]
      exact hf.symm
    · simp [hh]
    · simp [seen, TaskRun.watched, hlines, Function.comp_def]
    · simp [TaskRun.report?, hreport]

/-! ## All tasks -/

/-- The tasks that wait may run one after the other until no permit is
left. -/
theorem exists_steps_tasks (site : Site) (script : Script) (feed : Feed) (p : Pool) :
    let done := performed p.free (Supervisor.tasks site script p.seen.requests.length
      (p.waiting.map (·.change)))
    ∃ q, Steps site (fun _ => script.play) feed p q ∧
      q.waiting.length + done.length = p.waiting.length ∧
      q.running.length = p.running.length + done.countP TaskRun.hangs ∧
      q.seen = p.seen ++ done.flatMap TaskRun.watched ∧
      q.ended.map (·.report) = p.ended.map (·.report) ++ done.filterMap TaskRun.report? ∧
      q.summary = p.summary := by
  induction hw : p.waiting generalizing p with
  | nil =>
    refine ⟨p, Steps.refl, ?_⟩
    simp [Supervisor.tasks, hw]
  | cons task rest ih =>
    by_cases hf : p.free = some 0
    · refine ⟨p, Steps.refl, ?_⟩
      simp [hf, hw]
    · obtain ⟨free, hfree⟩ := exists_map_succ hf
      obtain ⟨q, hsteps, hqw, hqf, hqr, hqs, hqe, hqm⟩ :=
        exists_steps_task site (fun _ => script.play) feed hw hfree
      obtain ⟨q', hsteps', hqw', hqr', hqs', hqe', hqm'⟩ := ih q hqw
      have hn := Reconcile.length_requests_watched site task.change p.seen.requests.length
        (script.play p.seen.requests.length) p.seen
      rw [hqs, hn, hqf, hfree] at hqw' hqr' hqs' hqe'
      simp only [List.map_cons, Supervisor.tasks, hfree, performed_cons]
      refine ⟨q', hsteps.trans hsteps', ?_, ?_, ?_, ?_, hqm'.trans hqm⟩
      · rw [List.length_cons, List.length_cons, ← hqw']
        omega
      · rw [hqr', hqr, List.countP_cons]
        omega
      · rw [hqs', List.flatMap_cons, List.append_assoc]
      · rw [hqe', hqe, TaskRun.reports_cons, List.append_assoc]

/-- The ended tasks may be counted one after the other. -/
theorem exists_steps_reaped (site : Site) (provider : Provider) (feed : Feed) (p : Pool) :
    ∃ q, Steps site provider feed p q ∧ q.ended = [] ∧ q.waiting = p.waiting ∧
      q.running = p.running ∧ q.seen = p.seen ∧
      q.summary = (p.ended.map (·.report)).foldl Summary.record p.summary := by
  induction he : p.ended generalizing p with
  | nil => exact ⟨p, Steps.refl, he, rfl, rfl, rfl, rfl⟩
  | cons e rest ih =>
    have hreap : p.move? site provider feed (.reap 0) = some { p with
        ended := rest, reaped := p.reaped ++ [e], summary := p.summary.record e.report } := by
      simp [move?, reap?, he]
    obtain ⟨q, hsteps, hq⟩ := ih { p with
      ended := rest, reaped := p.reaped ++ [e], summary := p.summary.record e.report } rfl
    exact ⟨q, (Steps.single hreap).trans hsteps, hq⟩

/-- A run on one thread is one of the orders of moves: some state that can
come about in the same surroundings has been seen to do what the run did.
If the run comes to its end, all tasks have been counted in that state and
the numbers are the same. -/
theorem a_run_on_one_thread_is_one_of_the_orders (site : Site) (script : Script)
    (ceiling : Option Nat) (events : List Change) (endless : Bool) (result : Result)
    (h : run site script ceiling events endless = .ok result) :
    ∃ p, Reachable site (fun _ => script.play) (Feed.ofList events) ceiling p ∧
      p.seen = result.trace ∧
      ∀ summary, result.summary = some summary →
        p.summary = summary ∧ p.waiting = [] ∧ p.running = [] ∧ p.ended = [] := by
  have hle : ceiling.getD 0 ≤ maxPermits := le_of_run_ok h
  rw [run_eq_inTurn site script ceiling events endless hle] at h
  obtain rfl := Except.ok.inj h
  have hstream := steps_stream site (fun _ => script.play) ceiling events events.length
    (Nat.le_refl _)
  obtain ⟨q, hsteps, hw, hr, hs, he, hm⟩ := exists_steps_tasks site script (Feed.ofList events)
    { start ceiling with
      taken := events.length
      waiting := (Feed.ofList events).tasks site events.length
      summary := ⟨foreign site (events.take events.length),
        (admitted site (events.take events.length)).length, 0, 0, 0⟩ }
  obtain ⟨q', hsteps', he', hw', hr', hs', hm'⟩ :=
    exists_steps_reaped site (fun _ => script.play) (Feed.ofList events) q
  have hchanges := map_change_tasks site events events.length
  have hlength := congrArg List.length hchanges
  simp only [List.take_length, List.length_map] at hchanges hlength
  simp only [start, seen, hchanges, hlength, List.map_nil, List.nil_append, List.take_length,
    List.length_nil, Nat.zero_add] at hw hr hs he hm
  refine ⟨q', (hstream.trans hsteps).trans hsteps', hs'.trans hs, fun summary hsum => ?_⟩
  simp only [inTurn, length_tasks] at hsum
  split at hsum
  · rename_i hall
    obtain ⟨hlen, hhung, _⟩ := hall
    refine ⟨?_, ?_, ?_, he'⟩
    · rw [hm', he, hm, ← Option.some.inj hsum]
      rfl
    · rw [hw']
      refine List.length_eq_zero_iff.mp ?_
      have hleft : q.waiting.length + (performed ceiling (Supervisor.tasks site script 0
        (admitted site events))).length = (admitted site events).length := hw
      omega
    · rw [hr']
      refine List.length_eq_zero_iff.mp ?_
      exact hr.trans hhung
  · cases hsum

end Supervisor.Pool

end VolumeSync
