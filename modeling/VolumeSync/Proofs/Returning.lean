import VolumeSync.Proofs.Supervision
import VolumeSync.Proofs.TaskEnding

-- When a run of the supervisor comes to its end, and what it then counts.
-- It ends if and only if the stream does and every admitted change has a
-- task that ends, and what is counted hangs on what each task plays.

namespace VolumeSync

/-! ## Counting reports -/

theorem Summary.Counts.foldl {s : Summary} {past : List TaskReport} (h : s.Counts past)
    (reports : List TaskReport) :
    (reports.foldl Summary.record s).Counts (past ++ reports) := by
  induction reports generalizing s past with
  | nil =>
    rw [List.append_nil]
    exact h
  | cons report rest ih =>
    rw [List.append_cons]
    exact ih (h.snoc report)

theorem Summary.filteredOut_foldl (s : Summary) (reports : List TaskReport) :
    (reports.foldl Summary.record s).filteredOut = s.filteredOut := by
  induction reports generalizing s with
  | nil => rfl
  | cons report rest ih => rw [List.foldl_cons, ih, Summary.filteredOut_record]

theorem Summary.dispatched_foldl (s : Summary) (reports : List TaskReport) :
    (reports.foldl Summary.record s).dispatched = s.dispatched := by
  induction reports generalizing s with
  | nil => rfl
  | cons report rest ih => rw [List.foldl_cons, ih, Summary.dispatched_record]

/-- A task has a report unless it hangs. -/
theorem TaskRun.report?_eq_none_iff (r : TaskRun) : r.report? = none ↔ r.hangs = true := by
  unfold report? hangs
  cases h : r.ending <;> simp [Ending.report?]

/-- Where no task hangs, each has its report. -/
theorem TaskRun.map_report? {runs : List TaskRun} (h : runs.countP TaskRun.hangs = 0) :
    runs.map TaskRun.report? = (runs.filterMap TaskRun.report?).map some := by
  rw [List.countP_eq_zero] at h
  induction runs with
  | nil => rfl
  | cons r rest ih =>
    rcases hreport : r.report? with _ | report
    · exact absurd (r.report?_eq_none_iff.mp hreport) (h r List.mem_cons_self)
    · rw [List.map_cons, hreport, TaskRun.reports_cons, hreport,
        ih fun x hx => h x (List.mem_cons_of_mem _ hx)]
      rfl

namespace Supervisor

/-! ## What the tasks meet -/

/-- The changes in turn, each with the behaviour of the session that its
task asks for, if it asks for one. -/
def meetings (script : Script) (changes : List Change) : List (Change × Behaviour) :=
  changes.mapIdx fun i change =>
    (change, script.play ((changes.take i).countP Change.isMaterial))

/-- What is so of a task whatever the number of its session is so of the
tasks in turn by what they meet. -/
theorem map_tasks {α : Type} (site : Site) (script : Script) (changes : List Change)
    (f : TaskRun → α) (g : Change → Behaviour → α)
    (h : ∀ change n b, f (Reconcile.run site change n b) = g change b) :
    (tasks site script 0 changes).map f = (meetings script changes).map fun x => g x.1 x.2 := by
  refine List.ext_getElem? fun i => ?_
  rw [List.getElem?_map, List.getElem?_map, getElem?_tasks, meetings, List.getElem?_mapIdx]
  rcases changes[i]? with _ | change
  · rfl
  · simp only [Option.map_some, Nat.zero_add, h]

theorem countP_tasks (site : Site) (script : Script) (changes : List Change)
    (f : TaskRun → Bool) (g : Change → Behaviour → Bool)
    (h : ∀ change n b, f (Reconcile.run site change n b) = g change b) :
    (tasks site script 0 changes).countP f =
      (meetings script changes).countP fun x => g x.1 x.2 := by
  have hmap := congrArg (List.countP id) (map_tasks site script changes f g h)
  rw [List.countP_map, List.countP_map] at hmap
  exact hmap

/-- Reports of a kind are counted by the tasks that play what leads to it. -/
theorem countP_reports (site : Site) (script : Script) (changes : List Change)
    (kind : TaskReport → Bool) (g : Change → Behaviour → Bool)
    (h : ∀ {change b e}, Reconcile.Ends change b e →
      (e.report?.any fun r => kind r.1) = g change b) :
    ((tasks site script 0 changes).filterMap TaskRun.report?).countP kind =
      (meetings script changes).countP fun x => g x.1 x.2 := by
  rw [List.countP_filterMap]
  refine countP_tasks site script changes _ g ?_
  intro change n b
  rw [← h (Reconcile.ends_run site change n b), TaskRun.report?]
  rcases (Reconcile.run site change n b).ending.report? with _ | r
  · rfl
  · rfl

theorem hangs_run (site : Site) (change : Change) (n : Nat) (b : Behaviour) :
    (Reconcile.run site change n b).hangs = Reconcile.playsHang change b :=
  (Reconcile.ends_run site change n b).classified.1

/-! ## Tasks that get to run -/

/-- A ceiling that lets a task run at all cuts nothing off unless a task
hangs. -/
theorem performed_eq_self {ceiling : Option Nat} {runs : List TaskRun}
    (hzero : ceiling = some 0 → runs = [])
    (h : (performed ceiling runs).countP TaskRun.hangs = 0) : performed ceiling runs = runs := by
  rcases ceiling with _ | _ | permits
  · rfl
  · rw [hzero rfl]
    rfl
  · induction runs with
    | nil => rfl
    | cons r rest ih =>
      have hcons := performed_cons (some permits) r rest
      simp only [Option.map_some] at hcons
      have hr : ¬ r.hangs = true := by
        apply List.countP_eq_zero.mp h
        rw [hcons]
        exact List.mem_cons_self
      rw [if_neg hr] at hcons
      rw [hcons, List.countP_cons, if_neg hr] at h
      rw [hcons, ih (by simp) h]

/-- Where no task hangs, a ceiling of at least one permit cuts nothing off. -/
theorem performed_eq_self_of_no_hang {ceiling : Option Nat} {runs : List TaskRun}
    (hzero : ceiling ≠ some 0) (h : runs.countP TaskRun.hangs = 0) :
    performed ceiling runs = runs := by
  rcases ceiling with _ | permits
  · rfl
  · refine untilHung_eq_self ?_
    have hne : permits ≠ 0 := fun hp => hzero (congrArg some hp)
    omega

/-- A run that comes to its end has run all tasks, none of which hung, and
has counted each. -/
theorem inTurn_summary {site : Site} {script : Script} {ceiling : Option Nat}
    {events : List Change} {endless : Bool} {s : Summary}
    (h : (inTurn site script ceiling events endless).summary = some s) :
    (tasks site script 0 (admitted site events)).countP TaskRun.hangs = 0 ∧
    s.filteredOut = foreign site events ∧ s.dispatched = (admitted site events).length ∧
    s.Counts ((tasks site script 0 (admitted site events)).filterMap TaskRun.report?) := by
  unfold inTurn at h
  dsimp only at h
  split at h
  · rename_i hdone
    obtain ⟨hlen, hhung, _⟩ := hdone
    have hall := (performed_isPrefix ceiling
      (tasks site script 0 (admitted site events))).eq_of_length hlen
    rw [hall] at h hhung
    obtain rfl := Option.some.inj h
    refine ⟨hhung, Summary.filteredOut_foldl _ _, Summary.dispatched_foldl _ _, ?_⟩
    have hzero : Summary.Counts ⟨foreign site events, (admitted site events).length, 0, 0, 0⟩ [] :=
      ⟨rfl, rfl, rfl⟩
    exact hzero.foldl _
  · cases h

/-- A run comes to its end if and only if its stream does, no task that gets
to run hangs, and there is a permit if there is a task. -/
theorem isSome_summary_iff (site : Site) (script : Script) (ceiling : Option Nat)
    (events : List Change) (endless : Bool) :
    (inTurn site script ceiling events endless).summary.isSome ↔
      endless = false ∧
      (performed ceiling (tasks site script 0 (admitted site events))).countP TaskRun.hangs = 0 ∧
      ¬ (ceiling = some 0 ∧ admitted site events ≠ []) := by
  have hlen := length_tasks site script 0 (admitted site events)
  unfold inTurn
  dsimp only
  generalize tasks site script 0 (admitted site events) = runs at hlen ⊢
  split
  · rename_i hdone
    obtain ⟨hall, hhung, hends⟩ := hdone
    simp only [Option.isSome_some, true_iff]
    refine ⟨hends, hhung, ?_⟩
    rintro ⟨rfl, hsome⟩
    rw [performed_zero, List.length_nil, hlen] at hall
    exact hsome (List.length_eq_zero_iff.mp hall.symm)
  · rename_i hnot
    simp only [Option.isSome_none, Bool.false_eq_true, false_iff]
    rintro ⟨hends, hhung, hpermit⟩
    refine hnot ⟨?_, hhung, hends⟩
    rw [performed_eq_self ?_ hhung]
    intro hzero
    by_contra hruns
    refine hpermit ⟨hzero, fun hnone => hruns ?_⟩
    rw [hnone, List.length_nil] at hlen
    exact List.length_eq_zero_iff.mp hlen

theorem foreign_add_admitted (site : Site) (events : List Change) :
    foreign site events + (admitted site events).length = events.length := by
  unfold foreign admitted
  rw [← List.countP_eq_length_filter, Nat.add_comm]
  have h := List.length_eq_countP_add_countP
    (fun change : Change => Snapshot.comesFrom site.provisioner (some change.new)) (l := events)
  simp only [Bool.not_eq_true] at h
  rw [h]
  congr 1
  refine List.countP_congr fun change _ => ?_
  simp

/-- The changes that get no task are those of volumes without a driver or
with another. -/
theorem foreign_eq_countP (site : Site) (events : List Change) :
    foreign site events =
      events.countP fun change => decide (change.new.driver ≠ some site.provisioner) := by
  refine List.countP_congr fun change _ => ?_
  simp [Snapshot.comesFrom]

/-! ## The law -/

/-- Where a run comes to rest, the tasks that have not run are the last of
the admitted changes, and they wait for a permit. -/
theorem waiting_atRest (site : Site) (script : Script) (ceiling : Option Nat)
    (events : List Change) :
    ((State.start ceiling events).atRest site script).waiting =
      (admitted site events).drop
        (performed ceiling (tasks site script 0 (admitted site events))).length := by
  rw [State.atRest_start]

/-- What becomes of the changes is counted whether or not the run returns. -/
theorem counted_atRest (site : Site) (script : Script) (ceiling : Option Nat)
    (events : List Change) :
    ((State.start ceiling events).atRest site script).summary.filteredOut = foreign site events ∧
      ((State.start ceiling events).atRest site script).summary.dispatched =
        (admitted site events).length := by
  rw [State.atRest_start]
  exact ⟨Summary.filteredOut_foldl _ _, Summary.dispatched_foldl _ _⟩

/-- Those of the admitted changes whose tasks get to run, each with what
its task meets: all but those that still wait when nothing can go on. -/
def ran (site : Site) (script : Script) (ceiling : Option Nat) (events : List Change) :
    List (Change × Behaviour) :=
  (meetings script (admitted site events)).take ((admitted site events).length -
    ((State.start ceiling events).atRest site script).waiting.length)

theorem fst_meetings (script : Script) (changes : List Change) :
    (meetings script changes).map (·.1) = changes := by
  refine List.ext_getElem? fun i => ?_
  rw [meetings, List.getElem?_map, List.getElem?_mapIdx, Option.map_map]
  exact congrFun Option.map_id changes[i]?

/-- The tasks that get to run are those that no hung task keeps from it. -/
theorem ran_eq_take (site : Site) (script : Script) (ceiling : Option Nat)
    (events : List Change) :
    ran site script ceiling events = (meetings script (admitted site events)).take
      (performed ceiling (tasks site script 0 (admitted site events))).length := by
  have hle := (performed_isPrefix ceiling (tasks site script 0 (admitted site events))).length_le
  rw [length_tasks] at hle
  rw [ran, waiting_atRest, List.length_drop, Nat.sub_sub_self hle]

/-- Each admitted change gets its task to run or waits, the ones that wait
after the others. -/
theorem ran_append_waiting (site : Site) (script : Script) (ceiling : Option Nat)
    (events : List Change) :
    (ran site script ceiling events).map (·.1) ++
      ((State.start ceiling events).atRest site script).waiting = admitted site events := by
  rw [ran_eq_take, List.map_take, fst_meetings, waiting_atRest, List.take_append_drop]

/-- What is so of a task whatever the number of its session is so of the
tasks that get to run by what they meet. -/
theorem countP_performed (site : Site) (script : Script) (ceiling : Option Nat)
    (events : List Change) (f : TaskRun → Bool) (g : Change → Behaviour → Bool)
    (h : ∀ change n b, f (Reconcile.run site change n b) = g change b) :
    (performed ceiling (tasks site script 0 (admitted site events))).countP f =
      (ran site script ceiling events).countP fun x => g x.1 x.2 := by
  have hprefix := performed_isPrefix ceiling (tasks site script 0 (admitted site events))
  have hmap := map_tasks site script (admitted site events) f g h
  have hcount := congrArg (fun bs => (bs.take (performed ceiling (tasks site script 0
    (admitted site events))).length).countP id) hmap
  simp only [← List.map_take, ← List.prefix_iff_eq_take.mp hprefix, List.countP_map] at hcount
  rw [ran_eq_take]
  exact hcount

/-- A task that gets to run hangs if it comes to a call that does. -/
theorem countP_hangs_performed (site : Site) (script : Script) (ceiling : Option Nat)
    (events : List Change) :
    (performed ceiling (tasks site script 0 (admitted site events))).countP TaskRun.hangs =
      (ran site script ceiling events).countP fun x => Reconcile.playsHang x.1 x.2 :=
  countP_performed site script ceiling events _ _ (hangs_run site)

/-- A run comes to its end if and only if its stream ends, no task that gets
to run comes to a call that hangs, and it is not that tasks are wanted while
there are no permits at all. At its end it has counted every change once, as
filtered out if the volume has no driver or another, else by its task: as
failed if the task was refused its session with an error, as panicked if it
came to a call that panicked, and otherwise as completed, be it that there
was nothing to tell, that there was no session or that calls failed. -/
theorem a_run_returns_if_its_tasks_end (site : Site) (script : Script) (ceiling : Option Nat)
    (events : List Change) (endless : Bool) (h : ceiling.getD 0 ≤ maxPermits) :
    let met := meetings script (admitted site events)
    ∃ result, run site script ceiling events endless = .ok result ∧
      (ran site script ceiling events).map (·.1) ++
        ((State.start ceiling events).atRest site script).waiting = admitted site events ∧
      (result.summary.isSome ↔
        endless = false ∧
        (∀ x ∈ ran site script ceiling events, Reconcile.playsHang x.1 x.2 = false) ∧
        ¬ (ceiling = some 0 ∧ admitted site events ≠ [])) ∧
      ∀ s, result.summary = some s →
        s.filteredOut =
          events.countP (fun change => decide (change.new.driver ≠ some site.provisioner)) ∧
        s.filteredOut + s.dispatched = events.length ∧
        s.dispatched = s.completed + s.failed + s.panicked ∧
        s.failed = met.countP (fun x => Reconcile.isRefused x.1 x.2) ∧
        s.panicked = met.countP (fun x => Reconcile.playsPanic x.1 x.2) ∧
        s.completed = met.countP (fun x => Reconcile.completes x.1 x.2) := by
  intro met
  refine ⟨_, run_eq_inTurn site script ceiling events endless h,
    ran_append_waiting site script ceiling events, ?_, ?_⟩
  · rw [isSome_summary_iff, countP_hangs_performed, List.countP_eq_zero]
    simp only [Bool.not_eq_true]
  · intro s hs
    obtain ⟨hhung, hout, hdispatched, hcounts⟩ := inTurn_summary hs
    have hreports := congrArg List.length (TaskRun.map_report? hhung)
    simp only [List.length_map, length_tasks] at hreports
    refine ⟨hout.trans (foreign_eq_countP site events), ?_, ?_, ?_, ?_, ?_⟩
    · rw [hout, hdispatched]
      exact foreign_add_admitted site events
    · rw [hcounts.sum, hdispatched, hreports]
    · rw [hcounts.failed]
      exact countP_reports site script _ _ _ fun h => h.classified.2.2.1
    · rw [hcounts.panicked]
      exact countP_reports site script _ _ _ fun h => h.classified.2.1
    · rw [hcounts.completed]
      exact countP_reports site script _ _ _ fun h => h.classified.2.2.2

/-- Under a ceiling of one, after a volume of another driver: a task that is
refused its session, one that panics at its metadata call and one whose
tags are refused. All end, and the run returns. -/
theorem a_backlog_behind_failures_drains :
    let seen : Snapshot := { Snapshot.blank with driver := some "d" }
    let bound : Change := ⟨some seen, { seen with phase := .bound }⟩
    (some 1 : Option Nat).getD 0 ≤ maxPermits ∧
    ∃ result, run ⟨"d", "p", .empty⟩
        [⟨.fail (.plain "no"), .hang, .hang⟩, ⟨.granted, .panic .other, .hang⟩,
          ⟨.granted, .fail (.plain "no"), .fail (.plain "no")⟩] (some 1)
        [⟨none, Snapshot.blank⟩, bound, bound, bound] false = .ok result ∧
      result.summary = some ⟨1, 3, 1, 1, 1⟩ := by
  intro seen bound
  have hle : (some 1 : Option Nat).getD 0 ≤ maxPermits := by decide
  obtain ⟨result, hrun, _, hreturns, hcounts⟩ := a_run_returns_if_its_tasks_end ⟨"d", "p", .empty⟩
    [⟨.fail (.plain "no"), .hang, .hang⟩, ⟨.granted, .panic .other, .hang⟩,
      ⟨.granted, .fail (.plain "no"), .fail (.plain "no")⟩] (some 1)
    [⟨none, Snapshot.blank⟩, bound, bound, bound] false hle
  obtain ⟨s, hs⟩ := Option.isSome_iff_exists.mp (hreturns.mpr ⟨rfl, by decide, by decide⟩)
  obtain ⟨hout, hall, _, hfailed, hpanicked, hcompleted⟩ := hcounts s hs
  have h1 : s.filteredOut = 1 := hout.trans (by decide)
  have h2 : s.dispatched = 3 := by
    rw [h1, show [_, bound, bound, bound].length = 4 from rfl] at hall
    omega
  have h3 : s.completed = 1 := hcompleted.trans (by decide)
  have h4 : s.failed = 1 := hfailed.trans (by decide)
  have h5 : s.panicked = 1 := hpanicked.trans (by decide)
  refine ⟨hle, result, hrun, ?_⟩
  rw [hs]
  cases s
  simp_all

end Supervisor

end VolumeSync
