import VolumeSync.Proofs.Sequence

-- The laws of a run of the supervisor. Every step leaves less work, so a
-- run comes to rest, and where it comes to rest does not depend on the
-- bound. First the stream is taken, then the tasks run, and last they are
-- counted; what that leaves is what the tasks in turn leave.

namespace VolumeSync

/-- A task of its own for the change, without a permit. -/
def Job.fresh (change : Change) : Job := ⟨change, false⟩

namespace Supervisor.State

variable (site : Site) (script : Script)

/-! ## Rest -/

theorem work_release_le (s : State) : s.release.work ≤ s.work + 1 := by
  unfold release
  split
  · simp [work]
  · rename_i hw
    simp only [work, hw, List.length_append, List.length_cons, List.length_nil]
    omega

theorem work_perform_le (s : State) (change : Change) :
    (s.perform site script change).work ≤ s.work + 2 := by
  unfold perform
  dsimp only
  split
  · simp [work]
  · refine Nat.le_trans (work_release_le _) ?_
    simp only [work, List.length_append, List.length_cons, List.length_nil]
    omega

theorem work_begin_le (s : State) (job : Job) :
    (s.begin site script job).work ≤ s.work + 2 := by
  unfold begin
  split
  · exact work_perform_le site script s job.change
  · split
    · exact work_perform_le site script s job.change
    · exact work_perform_le site script _ job.change
    · simp only [work, List.length_append, List.length_cons, List.length_nil]
      omega

theorem work_receive_le (s : State) (change : Change) :
    (s.receive site change).work ≤ s.work + 3 := by
  unfold receive
  split
  · simp only [work, List.length_append, List.length_cons, List.length_nil]
    omega
  · simp [work]

/-- What one step does: a change is taken, else a task runs or waits,
else an ended task is counted. -/
theorem step_cases {s next : State} (h : s.step? site script = some next) :
    (∃ change arrivals, s.arrivals = change :: arrivals ∧
      next = { s with arrivals }.receive site change) ∨
    (∃ job ready, s.arrivals = [] ∧ s.ready = job :: ready ∧
      next = { s with ready }.begin site script job) ∨
    (∃ report ended, s.arrivals = [] ∧ s.ready = [] ∧ s.ended = report :: ended ∧
      next = { s with ended, summary := s.summary.record report }) := by
  unfold step? at h
  rcases ha : s.arrivals with _ | ⟨change, arrivals⟩
  · rcases hr : s.ready with _ | ⟨job, ready⟩
    · rcases he : s.ended with _ | ⟨report, ended⟩
      · simp [ha, hr, he] at h
      · simp only [ha, hr, he, Option.some.injEq] at h
        exact Or.inr (Or.inr ⟨report, ended, rfl, rfl, rfl, h.symm⟩)
    · simp only [ha, hr, Option.some.injEq] at h
      exact Or.inr (Or.inl ⟨job, ready, rfl, rfl, h.symm⟩)
  · simp only [ha, Option.some.injEq] at h
    exact Or.inl ⟨change, arrivals, rfl, h.symm⟩

/-- Every step leaves less work. -/
theorem work_lt_of_step {s next : State} (h : s.step? site script = some next) :
    next.work < s.work := by
  rcases step_cases site script h with ⟨change, arrivals, ha, rfl⟩ |
    ⟨job, ready, ha, hr, rfl⟩ | ⟨report, ended, ha, hr, he, rfl⟩
  · have h1 := work_receive_le site { s with arrivals } change
    simp only [work, ha, List.length_cons] at h1 ⊢
    omega
  · have h1 := work_begin_le site script { s with ready } job
    simp only [work, ha, hr, List.length_cons] at h1 ⊢
    omega
  · simp only [work, ha, hr, he, List.length_cons]
    omega

/-- Two bounds that are large enough give the same state. -/
theorem settle_eq_settle {s : State} {m n : Nat} (hm : s.work ≤ m) (hn : s.work ≤ n) :
    settle site script m s = settle site script n s := by
  induction m generalizing s n with
  | zero =>
    rcases n with _ | n
    · rfl
    · rcases hs : s.step? site script with _ | next
      · simp [settle, hs]
      · have := work_lt_of_step site script hs
        omega
  | succ m ih =>
    rcases hs : s.step? site script with _ | next
    · rcases n with _ | n <;> simp [settle, hs]
    · have hlt := work_lt_of_step site script hs
      rcases n with _ | n
      · omega
      · simp only [settle, hs]
        exact ih (by omega) (by omega)

/-- The state in which nothing can go on any more. -/
def atRest (s : State) : State := settle site script s.work s

theorem atRest_of_step {s next : State} (h : s.step? site script = some next) :
    s.atRest site script = next.atRest site script := by
  have hlt := work_lt_of_step site script h
  unfold atRest
  rcases hw : s.work with _ | w
  · omega
  · simp only [settle, h]
    exact settle_eq_settle site script (by omega) (Nat.le_refl _)

theorem atRest_of_stop {s : State} (h : s.step? site script = none) :
    s.atRest site script = s := by
  unfold atRest
  rcases s.work with _ | w <;> simp [settle, h]

/-! ## The stream is taken -/

/-- The whole stream is taken before any task runs. -/
theorem atRest_stream (s : State) (events : List Change) :
    atRest site script { s with arrivals := events } =
      atRest site script { s with
        arrivals := []
        ready := s.ready ++ (admitted site events).map Job.fresh
        summary := { s.summary with
          filteredOut := s.summary.filteredOut + foreign site events
          dispatched := s.summary.dispatched + (admitted site events).length } } := by
  induction events generalizing s with
  | nil => simp [admitted, foreign]
  | cons change rest ih =>
    have hstep : step? site script { s with arrivals := change :: rest } =
        some (receive site { s with arrivals := rest } change) := rfl
    rw [atRest_of_step site script hstep]
    rcases hc : Snapshot.comesFrom site.provisioner (some change.new) with _ | _
    · have hr : receive site { s with arrivals := rest } change =
          { { s with summary := { s.summary with filteredOut := s.summary.filteredOut + 1 } } with
            arrivals := rest } := by
        simp [receive, hc]
      have h1 : admitted site (change :: rest) = admitted site rest := by simp [admitted, hc]
      have h2 : foreign site (change :: rest) = 1 + foreign site rest := by
        simp [foreign, hc, Nat.add_comm]
      rw [hr, ih, h1, h2]
      simp only [Nat.add_assoc]
    · have hr : receive site { s with arrivals := rest } change =
          { { s with
              ready := s.ready ++ [Job.fresh change]
              summary := { s.summary with dispatched := s.summary.dispatched + 1 } } with
            arrivals := rest } := by
        simp [receive, hc, Job.fresh]
      have h1 : admitted site (change :: rest) = change :: admitted site rest := by
        simp [admitted, hc]
      have h2 : foreign site (change :: rest) = foreign site rest := by simp [foreign, hc]
      rw [hr, ih, h1, h2]
      simp [Nat.add_assoc, Nat.add_comm 1]

/-! ## The tasks run -/

/-- The state after a task has run while no other waits for a permit. -/
def ran (s : State) (r : TaskRun) : State :=
  { s with
    free := if r.hangs then s.free else s.free.map (· + 1)
    hung := s.hung + if r.hangs then 1 else 0
    ended := s.ended ++ r.report?.toList
    trace := s.trace ++ r.watched }

theorem perform_eq_ran {s : State} (hw : s.waiting = []) (change : Change) :
    s.perform site script change =
      s.ran (Reconcile.run site change s.trace.requests.length
        (script.play s.trace.requests.length)) := by
  unfold perform ran
  dsimp only
  generalize Reconcile.run site change _ _ = r
  rcases he : r.ending with outcome | f | payload | _ <;>
    simp [TaskRun.watched, TaskRun.hangs, TaskRun.report?, Ending.line?, Ending.report?, release,
      hw, he]

/-- The state in which the tasks of these changes have run, as far as there
were permits, and the others wait. -/
def ranAll (s : State) (changes : List Change) : State :=
  let done := performed s.free (tasks site script s.trace.requests.length changes)
  { s with
    ready := []
    waiting := s.waiting ++ changes.drop done.length
    free := s.free.map (· - done.countP TaskRun.hangs)
    hung := s.hung + done.countP TaskRun.hangs
    ended := s.ended ++ done.filterMap TaskRun.report?
    trace := s.trace ++ done.flatMap TaskRun.watched }

/-- Without a free permit all tasks wait. -/
theorem atRest_stuck {s : State} (changes : List Change) (ha : s.arrivals = [])
    (hr : s.ready = changes.map Job.fresh) (hf : s.free = some 0) :
    s.atRest site script =
      atRest site script { s with ready := [], waiting := s.waiting ++ changes } := by
  induction changes generalizing s with
  | nil =>
    congr 1
    cases s
    simp_all
  | cons change rest ih =>
    have hstep : s.step? site script = some { s with
        ready := rest.map Job.fresh, waiting := s.waiting ++ [change] } := by
      simp [step?, ha, hr, begin, Job.fresh, hf]
    rw [atRest_of_step site script hstep]
    have h := ih (s := { s with
      ready := rest.map Job.fresh, waiting := s.waiting ++ [change] }) ha rfl hf
    rw [h]
    simp

theorem begin_eq_ran {s : State} {free : Option Nat} (change : Change) (hw : s.waiting = [])
    (hf : s.free = free.map (· + 1)) :
    s.begin site script (Job.fresh change) =
      ran { s with free } (Reconcile.run site change s.trace.requests.length
        (script.play s.trace.requests.length)) := by
  unfold begin
  rcases free with _ | permits
  · simp only [Option.map_none] at hf
    simp only [Job.fresh, Bool.false_eq_true, if_false, hf]
    rw [perform_eq_ran site script hw, ← hf]
  · simp only [Option.map_some] at hf
    simp only [Job.fresh, Bool.false_eq_true, if_false, hf]
    exact perform_eq_ran site script (s := { s with free := some permits }) hw change

/-- One task and then the others is all of them. -/
theorem ranAll_ran {s : State} {free : Option Nat} (ready : List Job) (change : Change)
    (rest : List Change) (hf : s.free = free.map (· + 1)) :
    ranAll site script (ran { s with ready, free } (Reconcile.run site change
        s.trace.requests.length (script.play s.trace.requests.length))) rest =
      s.ranAll site script (change :: rest) := by
  unfold ranAll
  simp only [tasks, hf, performed_cons]
  have hn := Reconcile.length_requests_watched site change s.trace.requests.length
    (script.play s.trace.requests.length) s.trace
  generalize Reconcile.run site change s.trace.requests.length _ = r at hn ⊢
  simp only [ran, hn]
  generalize performed _ _ = done
  simp only [TaskRun.reports_cons, List.length_cons, List.drop_succ_cons, List.countP_cons,
    List.flatMap_cons, List.append_assoc]
  rcases hh : r.hangs with _ | _
  · simp
  · have hhung : s.hung + 1 + done.countP TaskRun.hangs =
        s.hung + (done.countP TaskRun.hangs + 1) := by omega
    rcases free with _ | permits <;> simp [hhung]

/-- The tasks run in the order of their dispatch until no permit is left. -/
theorem atRest_ready {s : State} (changes : List Change) (ha : s.arrivals = [])
    (hr : s.ready = changes.map Job.fresh) (hw : s.waiting = []) :
    s.atRest site script = (s.ranAll site script changes).atRest site script := by
  induction changes generalizing s with
  | nil =>
    congr 1
    cases s
    simp_all [ranAll, tasks]
  | cons change rest ih =>
    by_cases hf : s.free = some 0
    -- With no permit left all of them wait; else the first runs to its end.
    · rw [atRest_stuck site script _ ha hr hf]
      simp [ranAll, hf]
    · obtain ⟨free, hfree⟩ := exists_map_succ hf
      have hstep : s.step? site script =
          some (begin site script { s with ready := rest.map Job.fresh } (Job.fresh change)) := by
        simp [step?, ha, hr]
      rw [atRest_of_step site script hstep,
        begin_eq_ran site script (s := { s with ready := rest.map Job.fresh }) change hw hfree]
      have h := ih (s := ran { s with ready := rest.map Job.fresh, free } (Reconcile.run site
        change s.trace.requests.length (script.play s.trace.requests.length))) ha rfl hw
      rw [h, ranAll_ran site script _ change rest hfree]

/-! ## The ended tasks are counted -/

theorem atRest_ended {s : State} (reports : List TaskReport) (ha : s.arrivals = [])
    (hr : s.ready = []) (he : s.ended = reports) :
    s.atRest site script =
      { s with ended := [], summary := reports.foldl Summary.record s.summary } := by
  induction reports generalizing s with
  | nil =>
    have hstop : s.step? site script = none := by simp [step?, ha, hr, he]
    rw [atRest_of_stop site script hstop]
    cases s
    simp_all
  | cons report rest ih =>
    have hstep : s.step? site script =
        some { s with ended := rest, summary := s.summary.record report } := by
      simp [step?, ha, hr, he]
    rw [atRest_of_step site script hstep]
    exact ih (s := { s with ended := rest, summary := s.summary.record report }) ha hr rfl

/-- Where a run comes to rest: the tasks have run in turn and are counted. -/
theorem atRest_start (ceiling : Option Nat) (events : List Change) :
    (State.start ceiling events).atRest site script =
      let changes := admitted site events
      let done := performed ceiling (tasks site script 0 changes)
      { arrivals := [], ready := [], waiting := changes.drop done.length,
        free := ceiling.map (· - done.countP TaskRun.hangs),
        hung := done.countP TaskRun.hangs, ended := [],
        trace := done.flatMap TaskRun.watched,
        summary := (done.filterMap TaskRun.report?).foldl Summary.record
          ⟨foreign site events, changes.length, 0, 0, 0⟩ } := by
  have h1 := atRest_stream site script (State.start ceiling []) events
  have h2 := atRest_ready site script (admitted site events) (s := {
    State.start ceiling [] with
      ready := (admitted site events).map Job.fresh
      summary := ⟨foreign site events, (admitted site events).length, 0, 0, 0⟩ }) rfl rfl rfl
  simp only [State.start, Summary.zero, List.nil_append, Nat.zero_add] at h1 h2 ⊢
  rw [h1, h2, atRest_ended site script _ rfl rfl rfl]
  simp [ranAll, Trace.requests]

end Supervisor.State

namespace Supervisor

/-! ## The laws -/

/-- A run that is not refused has asked for no more permits than there can
be. -/
theorem le_of_run_ok {site : Site} {script : Script} {ceiling : Option Nat}
    {events : List Change} {endless : Bool} {result : Result}
    (h : run site script ceiling events endless = .ok result) : ceiling.getD 0 ≤ maxPermits := by
  unfold run at h
  split at h
  · assumption
  · cases h

/-- A run of the supervisor is its tasks in turn. -/
theorem run_eq_inTurn (site : Site) (script : Script) (ceiling : Option Nat)
    (events : List Change) (endless : Bool) (h : ceiling.getD 0 ≤ maxPermits) :
    run site script ceiling events endless = .ok (inTurn site script ceiling events endless) := by
  unfold run
  rw [if_pos h]
  have hrest := State.atRest_start site script ceiling events
  unfold State.atRest at hrest
  dsimp only at hrest ⊢
  rw [hrest]
  unfold inTurn
  dsimp only
  have hprefix := performed_isPrefix ceiling (tasks site script 0 (admitted site events))
  have hle := hprefix.length_le
  rw [length_tasks] at hle ⊢
  generalize performed ceiling _ = done at hle ⊢
  have hdone : (((admitted site events).drop done.length).isEmpty &&
      done.countP TaskRun.hangs == 0 && !endless) = true ↔
      done.length = (admitted site events).length ∧ done.countP TaskRun.hangs = 0 ∧
        endless = false := by
    simp only [Bool.and_eq_true, List.isEmpty_iff, List.drop_eq_nil_iff, beq_iff_eq,
      Bool.not_eq_true', and_assoc]
    constructor
    · rintro ⟨h1, h2, h3⟩
      exact ⟨by omega, h2, h3⟩
    · rintro ⟨h1, h2, h3⟩
      exact ⟨by omega, h2, h3⟩
  simp only [State.isDone, hdone]

/-- What is seen of a run is what is seen of its tasks in turn. Each
admitted change has its task, in the order of the stream; the task of a
material change plays the entry that is numbered by the material changes
before it, and the supervisor's own line follows a task that ends in a
session error or a panic. Without a ceiling all tasks are seen; under a
ceiling the list ends behind the task that hangs as the last of so many.
So where no task hangs, a ceiling makes no difference. -/
theorem a_run_is_its_tasks_in_turn (site : Site) (script : Script) (ceiling : Option Nat)
    (events : List Change) (endless : Bool)
    (h : ∀ permits, ceiling = some permits → 1 ≤ permits ∧ permits ≤ maxPermits) :
    let changes := admitted site events
    let runs := tasks site script 0 changes
    (∀ i change, changes[i]? = some change →
      let number := (changes.take i).countP Change.isMaterial
      runs[i]? = some (Reconcile.run site change number (script.play number))) ∧
    (∃ result, run site script ceiling events endless = .ok result ∧
      (ceiling = none → result.trace = runs.flatMap TaskRun.watched) ∧
      (∀ permits, ceiling = some permits →
        (runs.countP TaskRun.hangs < permits →
          result.trace = runs.flatMap TaskRun.watched) ∧
        (∀ before r after, runs = before ++ r :: after → r.hangs = true →
          before.countP TaskRun.hangs + 1 = permits →
          result.trace = (before ++ [r]).flatMap TaskRun.watched))) ∧
    (runs.countP TaskRun.hangs = 0 →
      run site script ceiling events endless = run site script none events endless) := by
  intro changes runs
  have hle : ceiling.getD 0 ≤ maxPermits := by
    rcases ceiling with _ | permits
    · exact Nat.zero_le _
    · exact (h permits rfl).2
  have hrun := run_eq_inTurn site script ceiling events endless hle
  refine ⟨?_, ⟨_, hrun, ?_, ?_⟩, ?_⟩
  · intro i change hi
    rw [getElem?_tasks, hi, Option.map_some, Nat.zero_add]
  · rintro rfl
    rfl
  · rintro permits rfl
    refine ⟨fun hlt => ?_, fun before r after hsplit hr hpermits => ?_⟩
    · simp only [inTurn, performed]
      rw [untilHung_eq_self hlt]
    · simp only [inTurn, performed]
      rw [← hpermits, show tasks site script 0 (admitted site events) = _ from hsplit,
        untilHung_split before after hr]
  · intro hnone
    have hall : performed ceiling runs = runs := by
      rcases hc : ceiling with _ | permits
      · rfl
      · exact untilHung_eq_self (by have := (h permits hc).1; omega)
    rw [hrun, run_eq_inTurn site script none events endless (Nat.zero_le _)]
    unfold inTurn
    simp only [show tasks site script 0 (admitted site events) = runs from rfl, hall,
      performed_none]

/-- Under a ceiling of one, the first of two tasks hangs in its request
and the second is never seen. -/
theorem a_hung_task_keeps_the_only_permit :
    (∀ permits, some 1 = some permits → 1 ≤ permits ∧ permits ≤ maxPermits) ∧
    ∃ result,
      run ⟨"d", "p", .empty⟩ [⟨.hang, .succeed, .succeed⟩] (some 1)
        [⟨none, { Snapshot.blank with driver := some "d" }⟩,
          ⟨none, { Snapshot.blank with driver := some "d" }⟩] false = .ok result ∧
      result.trace = [.requested 0] := by
  have h : ∀ permits, some 1 = some permits → 1 ≤ permits ∧ permits ≤ maxPermits := by
    intro permits hp
    cases hp
    exact ⟨Nat.le_refl 1, by decide⟩
  obtain ⟨_, ⟨result, hrun, _, hcut⟩, _⟩ := a_run_is_its_tasks_in_turn ⟨"d", "p", .empty⟩
    [⟨.hang, .succeed, .succeed⟩] (some 1) [⟨none, { Snapshot.blank with driver := some "d" }⟩,
      ⟨none, { Snapshot.blank with driver := some "d" }⟩] false h
  exact ⟨h, result, hrun, (hcut 1 rfl).2 [] _ _ rfl rfl rfl⟩

end Supervisor

end VolumeSync
