import Mathlib.Data.List.Nodup
import Mathlib.Data.List.Perm.Basic
import VolumeSync.Pool

-- The laws of the supervisor whoever comes next. No order of moves loses a
-- permit or makes one, only a task with a permit is seen to do anything,
-- and every task is at one stage of its way and counted once.

namespace VolumeSync

/-! ## Places in a list -/

theorem perm_cons_eraseIdx {α : Type} {xs : List α} {place : Nat} {x : α}
    (h : xs[place]? = some x) : xs.Perm (x :: xs.eraseIdx place) := by
  obtain ⟨hlt, rfl⟩ := List.getElem?_eq_some_iff.mp h
  exact (List.getElem_cons_eraseIdx_perm hlt).symm

/-- An entry that is replaced by one that looks the same. -/
theorem map_set_of_eq {α β : Type} (f : α → β) {xs : List α} {place : Nat} {x : α} (y : α)
    (h : xs[place]? = some x) (hf : f y = f x) : (xs.set place y).map f = xs.map f := by
  obtain ⟨hlt, rfl⟩ := List.getElem?_eq_some_iff.mp h
  rw [List.map_set, hf, ← List.getElem_map f (h := by rw [List.length_map]; exact hlt)]
  exact List.set_getElem_self _

/-! ## Counting -/

namespace TaskReport

/-- The task came to its own end. -/
def isCompleted : TaskReport → Bool
  | .completed _ => true
  | _ => false

/-- The task got no answer to its request for a session. -/
def isFailed : TaskReport → Bool
  | .failed _ => true
  | _ => false

/-- The task panicked. -/
def isPanicked : TaskReport → Bool
  | .panicked _ => true
  | _ => false

end TaskReport

/-- The numbers of ended tasks are those of their reports. -/
structure Summary.Counts (s : Summary) (reports : List TaskReport) : Prop where
  completed : s.completed = reports.countP TaskReport.isCompleted
  failed : s.failed = reports.countP TaskReport.isFailed
  panicked : s.panicked = reports.countP TaskReport.isPanicked

theorem Summary.Counts.snoc {s : Summary} {reports : List TaskReport} (h : s.Counts reports)
    (report : TaskReport) : (s.record report).Counts (reports ++ [report]) := by
  obtain ⟨hc, hf, hp⟩ := h
  cases report <;>
    exact ⟨by simp [Summary.record, TaskReport.isCompleted, hc],
      by simp [Summary.record, TaskReport.isFailed, hf],
      by simp [Summary.record, TaskReport.isPanicked, hp]⟩

/-- Every report is counted in one number. -/
theorem Summary.Counts.sum {s : Summary} {reports : List TaskReport} (h : s.Counts reports) :
    s.completed + s.failed + s.panicked = reports.length := by
  rw [h.completed, h.failed, h.panicked]
  clear h
  induction reports with
  | nil => rfl
  | cons report reports ih =>
    cases report <;>
      simp only [List.countP_cons, TaskReport.isCompleted, TaskReport.isFailed,
        TaskReport.isPanicked, List.length_cons] <;>
      simp <;> omega

@[simp] theorem Summary.filteredOut_record (s : Summary) (report : TaskReport) :
    (s.record report).filteredOut = s.filteredOut := by
  cases report <;> rfl

@[simp] theorem Summary.dispatched_record (s : Summary) (report : TaskReport) :
    (s.record report).dispatched = s.dispatched := by
  cases report <;> rfl

namespace Supervisor

/-! ## The tasks of a stream -/

namespace Feed

/-- The task of the change with this number, if it is admitted. -/
def task? (site : Site) (feed : Feed) (i : Nat) : Option Task :=
  (feed i).bind fun change =>
    if Snapshot.comesFrom site.provisioner (some change.new) then some ⟨i, change⟩ else none

/-- The tasks of the first so many changes. -/
def tasks (site : Site) (feed : Feed) (n : Nat) : List Task :=
  (List.range n).filterMap (feed.task? site)

theorem task?_eq_some (site : Site) (feed : Feed) (i : Nat) (task : Task) :
    feed.task? site i = some task ↔ task.ticket = i ∧ feed i = some task.change ∧
      Snapshot.comesFrom site.provisioner (some task.change.new) = true := by
  unfold task?
  rw [Option.bind_eq_some_iff]
  constructor
  · rintro ⟨change, hc, h⟩
    split at h
    · rename_i hours
      cases h
      exact ⟨rfl, hc, hours⟩
    · cases h
  · rintro ⟨rfl, hc, hours⟩
    exact ⟨task.change, hc, if_pos hours⟩

theorem mem_tasks (site : Site) (feed : Feed) (n : Nat) (task : Task) :
    task ∈ feed.tasks site n ↔ task.ticket < n ∧ feed task.ticket = some task.change ∧
      Snapshot.comesFrom site.provisioner (some task.change.new) = true := by
  simp only [tasks, List.mem_filterMap, List.mem_range, task?_eq_some]
  constructor
  · rintro ⟨i, hi, rfl, h⟩
    exact ⟨hi, h⟩
  · rintro ⟨hi, h⟩
    exact ⟨task.ticket, hi, rfl, h⟩

theorem tasks_succ (site : Site) (feed : Feed) (n : Nat) :
    feed.tasks site (n + 1) = feed.tasks site n ++ (feed.task? site n).toList := by
  unfold tasks
  rw [List.range_succ, List.filterMap_append]
  rcases h : feed.task? site n with _ | task <;> simp [h]

/-- No two tasks have a ticket in common. -/
theorem nodup_tickets (site : Site) (feed : Feed) (n : Nat) :
    ((feed.tasks site n).map (·.ticket)).Nodup := by
  induction n with
  | zero => exact List.nodup_nil
  | succ n ih =>
    rw [tasks_succ, List.map_append]
    refine List.nodup_append.mpr ⟨ih, ?_, ?_⟩
    · rcases feed.task? site n with _ | task <;> simp
    · intro a ha b hb hab
      obtain ⟨task, htask, rfl⟩ := List.mem_map.mp ha
      obtain ⟨last, hlast, rfl⟩ := List.mem_map.mp hb
      have h1 := ((mem_tasks site feed n task).mp htask).1
      have h2 := ((task?_eq_some site feed n last).mp (Option.mem_toList.mp hlast)).1
      omega

end Feed

namespace Pool

variable {site : Site} {provider : Provider} {feed : Feed} {ceiling : Option Nat} {p q : Pool}

/-! ## Runs -/

theorem Steps.trans {r : Pool} (h : Steps site provider feed p q)
    (h' : Steps site provider feed q r) : Steps site provider feed p r := by
  induction h' with
  | refl => exact h
  | snoc _ hm ih => exact ih.snoc hm

theorem Steps.single {m : Move} (h : p.move? site provider feed m = some q) :
    Steps site provider feed p q := Steps.refl.snoc h

/-- The state after all of these moves, if they are possible. -/
def moves? (site : Site) (provider : Provider) (feed : Feed) (p : Pool) : List Move → Option Pool
  | [] => some p
  | m :: moves => (p.move? site provider feed m).bind fun q => q.moves? site provider feed moves

theorem steps_of_moves (moves : List Move) (h : p.moves? site provider feed moves = some q) :
    Steps site provider feed p q := by
  induction moves generalizing p with
  | nil =>
    cases h
    exact Steps.refl
  | cons m moves ih =>
    obtain ⟨r, hm, hr⟩ := Option.bind_eq_some_iff.mp h
    exact (Steps.single hm).trans (ih hr)

/-! ## What each move does -/

/-- All tasks, stage by stage. -/
def tasks (p : Pool) : List Task :=
  p.waiting ++ p.running.map (·.task) ++ p.ended.map (·.task) ++ p.reaped.map (·.task)

/-- The tickets of the tasks between their permit and their end. -/
def runningTickets (p : Pool) : List Nat := p.running.map (·.task.ticket)

theorem acquire?_eq_some {place : Nat} (h : p.acquire? place = some q) :
    ∃ task free held, p.waiting[place]? = some task ∧
      ((p.free = none ∧ free = none ∧ held = p.held) ∨
        ∃ n, p.free = some (n + 1) ∧ free = some n ∧ held = p.held ++ [task.ticket]) ∧
      q = { p with
        waiting := p.waiting.eraseIdx place
        running := p.running ++ [⟨task, none⟩]
        free, held } := by
  unfold acquire? at h
  split at h
  · cases h
  · cases h
  · rename_i task n hw hf
    exact ⟨task, some n, p.held ++ [task.ticket], hw, Or.inr ⟨n, hf, rfl, rfl⟩,
      (Option.some.inj h).symm⟩
  · rename_i task hw hf
    refine ⟨task, none, p.held, hw, Or.inl ⟨hf, rfl, rfl⟩, ?_⟩
    rw [← hf]
    exact (Option.some.inj h).symm

theorem act?_eq_some {place : Nat} (h : p.act? site provider place = some q) :
    ∃ r effect rest, p.running[place]? = some r ∧
      (p.plan site provider r).trace = effect :: rest ∧
      q = { p with
        running := p.running.set place ⟨r.task, some ⟨rest, (p.plan site provider r).ending⟩⟩
        trace := p.trace ++ [(r.task.ticket, effect)] } := by
  unfold act? at h
  split at h
  · cases h
  · rename_i r hr
    dsimp only at h
    split at h
    · cases h
    · rename_i effect rest ht
      exact ⟨r, effect, rest, hr, ht, (Option.some.inj h).symm⟩

theorem finish?_eq_some {place : Nat} (h : p.finish? site provider place = some q) :
    ∃ r ending report lines, p.running[place]? = some r ∧
      p.plan site provider r = ⟨[], ending⟩ ∧ ending.report? = some (report, lines) ∧
      q = { p with
        running := p.running.eraseIdx place
        ended := p.ended ++ [⟨r.task, report⟩]
        free := p.free.map (· + 1)
        held := p.held.erase r.task.ticket
        trace := p.trace ++ lines.map fun line => (r.task.ticket, .logged line) } := by
  unfold finish? at h
  split at h
  · cases h
  · rename_i r hr
    split at h
    · rename_i ending hplan
      obtain ⟨⟨report, lines⟩, hreport, hq⟩ := Option.map_eq_some_iff.mp h
      exact ⟨r, ending, report, lines, hr, hplan, hreport, hq.symm⟩
    · cases h

theorem reap?_eq_some {place : Nat} (h : p.reap? place = some q) :
    ∃ e, p.ended[place]? = some e ∧
      q = { p with
        ended := p.ended.eraseIdx place
        reaped := p.reaped ++ [e]
        summary := p.summary.record e.report } := by
  unfold reap? at h
  split at h
  · cases h
  · rename_i e he
    exact ⟨e, he, (Option.some.inj h).symm⟩

/-! ## Permits -/

/-- Free permits and those that are held are all there are, and they are
held by the tasks between their permit and their end. -/
structure PermitsKept (ceiling : Option Nat) (p : Pool) : Prop where
  all : p.free.map (· + p.held.length) = ceiling
  holders : p.free.isSome → p.held.Perm p.runningTickets
  unlimited : p.free = none → p.held = []

theorem perm_runningTickets {place : Nat} {r : Running} (h : p.running[place]? = some r) :
    p.runningTickets.Perm
      (r.task.ticket :: runningTickets { p with running := p.running.eraseIdx place }) :=
  (perm_cons_eraseIdx h).map fun x : Running => x.task.ticket

/-- A task that takes a permit takes it from the free ones. -/
theorem PermitsKept.acquire {place : Nat} (hp : p.PermitsKept ceiling)
    (h : p.acquire? place = some q) : q.PermitsKept ceiling := by
  obtain ⟨task, free, held, _, hfree, rfl⟩ := acquire?_eq_some h
  rcases hfree with ⟨hf, rfl, rfl⟩ | ⟨n, hf, rfl, rfl⟩
  · refine ⟨?_, fun hs => absurd hs Bool.false_ne_true, fun _ => hp.unlimited hf⟩
    rw [← hp.all, hf]
  · refine ⟨?_, fun _ => ?_, fun hn => by cases hn⟩
    · rw [← hp.all, hf]
      simp only [Option.map_some, List.length_append, List.length_singleton]
      congr 1
      omega
    · have hheld := hp.holders (by rw [hf]; rfl)
      unfold runningTickets
      rw [List.map_append]
      exact hheld.append_right [task.ticket]

/-- A task that ends gives its permit back. -/
theorem PermitsKept.finish {place : Nat} (hp : p.PermitsKept ceiling)
    (h : p.finish? site provider place = some q) : q.PermitsKept ceiling := by
  obtain ⟨r, ending, report, lines, hr, _, _, rfl⟩ := finish?_eq_some h
  have hperm := perm_runningTickets hr
  rcases hf : p.free with _ | free
  -- Without a ceiling there is nothing to give back.
  · have hheld := hp.unlimited hf
    refine ⟨?_, fun hs => absurd hs Bool.false_ne_true, fun _ => ?_⟩
    · rw [← hp.all, hf]
      rfl
    · rw [hheld]
      rfl
  · have hheld := hp.holders (by rw [hf]; rfl)
    have hmem : r.task.ticket ∈ p.held :=
      hheld.mem_iff.mpr (hperm.mem_iff.mpr (List.mem_cons_self))
    refine ⟨?_, fun _ => ?_, fun hn => by cases hn⟩
    · rw [← hp.all, hf]
      have hpos := List.length_pos_of_mem hmem
      simp only [Option.map_some, List.length_erase_of_mem hmem]
      congr 1
      omega
    · have h1 := (hheld.trans hperm).erase r.task.ticket
      rw [List.erase_cons_head] at h1
      exact h1

/-- No move loses a permit or makes one. -/
theorem PermitsKept.move {m : Move} (hp : p.PermitsKept ceiling)
    (h : p.move? site provider feed m = some q) : q.PermitsKept ceiling := by
  cases m with
  | consume =>
    obtain ⟨change, _, rfl⟩ := Option.map_eq_some_iff.mp h
    unfold receive
    split
    · exact ⟨hp.all, hp.holders, hp.unlimited⟩
    · exact ⟨hp.all, hp.holders, hp.unlimited⟩
  | acquire place => exact hp.acquire h
  | act place =>
    obtain ⟨r, effect, rest, hr, _, rfl⟩ := act?_eq_some h
    refine ⟨hp.all, fun hs => ?_, hp.unlimited⟩
    have hsame := map_set_of_eq (·.task.ticket)
      (⟨r.task, some ⟨rest, (p.plan site provider r).ending⟩⟩ : Running) hr rfl
    exact (hp.holders hs).trans (by rw [runningTickets, runningTickets, hsame])
  | finish place => exact hp.finish h
  | reap place =>
    obtain ⟨e, _, rfl⟩ := reap?_eq_some h
    exact ⟨hp.all, hp.holders, hp.unlimited⟩

/-! ## Stages -/

/-- The tasks are those of the changes taken, each at one stage. -/
structure Staged (site : Site) (feed : Feed) (p : Pool) : Prop where
  taken : ∀ i, i < p.taken → (feed i).isSome
  tasks : p.tasks.Perm (feed.tasks site p.taken)

/-- A change that is taken gives its task, if it is admitted. -/
theorem Staged.consume {change : Change} (hp : p.Staged site feed)
    (hc : feed p.taken = some change) : (p.receive site change).Staged site feed := by
  have htaken : ∀ i, i < p.taken + 1 → (feed i).isSome := fun i hi => by
    rcases Nat.lt_succ_iff_lt_or_eq.mp hi with hlt | rfl
    · exact hp.taken i hlt
    · rw [hc]
      rfl
  unfold receive
  split
  · rename_i hours
    have htask : feed.task? site p.taken = some ⟨p.taken, change⟩ :=
      (Feed.task?_eq_some site feed _ _).mpr ⟨rfl, hc, hours⟩
    refine ⟨htaken, ?_⟩
    dsimp only
    rw [Feed.tasks_succ, htask]
    refine List.Perm.trans ?_ (hp.tasks.append_right _)
    simp only [Pool.tasks, List.append_assoc, Option.toList_some]
    refine List.Perm.append_left _ ?_
    refine List.perm_append_comm.trans ?_
    simp only [List.append_assoc]
    exact List.Perm.refl _
  · rename_i hforeign
    have htask : feed.task? site p.taken = none := by
      rw [Feed.task?, hc, Option.bind_some, if_neg hforeign]
    refine ⟨htaken, ?_⟩
    dsimp only
    rw [Feed.tasks_succ, htask, Option.toList_none, List.append_nil]
    exact hp.tasks

/-- What happens to the numbers when no change is taken: nothing, or an
ended task is counted. -/
theorem numbers_of_move {m : Move} (h : p.move? site provider feed m = some q)
    (hm : m ≠ .consume) : q.taken = p.taken ∧
      ((q.summary = p.summary ∧ q.reaped = p.reaped) ∨
        ∃ e, q.summary = p.summary.record e.report ∧ q.reaped = p.reaped ++ [e]) := by
  cases m with
  | consume => exact absurd rfl hm
  | acquire place =>
    obtain ⟨task, free, held, _, _, rfl⟩ := acquire?_eq_some h
    exact ⟨rfl, Or.inl ⟨rfl, rfl⟩⟩
  | act place =>
    obtain ⟨r, effect, rest, _, _, rfl⟩ := act?_eq_some h
    exact ⟨rfl, Or.inl ⟨rfl, rfl⟩⟩
  | finish place =>
    obtain ⟨r, ending, report, lines, _, _, _, rfl⟩ := finish?_eq_some h
    exact ⟨rfl, Or.inl ⟨rfl, rfl⟩⟩
  | reap place =>
    obtain ⟨e, _, rfl⟩ := reap?_eq_some h
    exact ⟨rfl, Or.inr ⟨e, rfl, rfl⟩⟩

/-- A move other than to take a change moves a task on, if any. -/
theorem tasks_perm_of_move {m : Move} (h : p.move? site provider feed m = some q)
    (hm : m ≠ .consume) : q.tasks.Perm p.tasks := by
  cases m with
  | consume => exact absurd rfl hm
  | acquire place =>
    obtain ⟨task, free, held, hw, _, rfl⟩ := acquire?_eq_some h
    refine List.perm_iff_count.mpr fun t => ?_
    have hc := (perm_cons_eraseIdx hw).count_eq t
    simp only [Pool.tasks, List.count_append, List.map_append, List.map_cons, List.map_nil,
      List.count_cons, List.count_nil] at hc ⊢
    omega
  | act place =>
    obtain ⟨r, effect, rest, hr, _, rfl⟩ := act?_eq_some h
    have hsame := map_set_of_eq (·.task)
      (⟨r.task, some ⟨rest, (p.plan site provider r).ending⟩⟩ : Running) hr rfl
    simp only [Pool.tasks, hsame]
    exact List.Perm.refl _
  | finish place =>
    obtain ⟨r, ending, report, lines, hr, _, _, rfl⟩ := finish?_eq_some h
    refine List.perm_iff_count.mpr fun t => ?_
    have hc := ((perm_cons_eraseIdx hr).map fun x : Running => x.task).count_eq t
    simp only [Pool.tasks, List.count_append, List.map_append, List.map_cons, List.map_nil,
      List.count_cons, List.count_nil] at hc ⊢
    omega
  | reap place =>
    obtain ⟨e, he, rfl⟩ := reap?_eq_some h
    refine List.perm_iff_count.mpr fun t => ?_
    have hc := ((perm_cons_eraseIdx he).map fun x : Ended => x.task).count_eq t
    simp only [Pool.tasks, List.count_append, List.map_append, List.map_cons, List.map_nil,
      List.count_cons, List.count_nil] at hc ⊢
    omega

/-- No move loses a task, makes a second one or passes a stage by. -/
theorem Staged.move {m : Move} (hp : p.Staged site feed)
    (h : p.move? site provider feed m = some q) : q.Staged site feed := by
  by_cases hm : m = .consume
  · subst hm
    obtain ⟨change, hc, rfl⟩ := Option.map_eq_some_iff.mp h
    exact hp.consume hc
  · have htaken := (numbers_of_move h hm).1
    refine ⟨fun i hi => hp.taken i (htaken ▸ hi), ?_⟩
    rw [htaken]
    exact (tasks_perm_of_move h hm).trans hp.tasks

/-! ## Numbers -/

/-- Every change taken is counted, every task once when it is dispatched
and once more when it is reaped. -/
structure Counted (p : Pool) : Prop where
  received : p.summary.filteredOut + p.summary.dispatched = p.taken
  dispatched : p.summary.dispatched = p.tasks.length
  reaped : p.summary.Counts (p.reaped.map (·.report))

theorem Counted.consume (hp : p.Counted) (change : Change) :
    (p.receive site change).Counted := by
  obtain ⟨hr, hd, hc⟩ := hp
  unfold receive
  split
  · refine ⟨?_, ?_, ⟨hc.completed, hc.failed, hc.panicked⟩⟩
    · dsimp only
      omega
    · simp only [hd, Pool.tasks, List.length_append, List.length_singleton]
      omega
  · refine ⟨?_, hd, ⟨hc.completed, hc.failed, hc.panicked⟩⟩
    dsimp only
    omega

theorem Counted.move {m : Move} (hp : p.Counted)
    (h : p.move? site provider feed m = some q) : q.Counted := by
  by_cases hm : m = .consume
  · subst hm
    obtain ⟨change, _, rfl⟩ := Option.map_eq_some_iff.mp h
    exact hp.consume change
  · have hlength := (tasks_perm_of_move h hm).length_eq
    obtain ⟨htaken, hnumbers⟩ := numbers_of_move h hm
    obtain ⟨hr, hd, hc⟩ := hp
    rcases hnumbers with ⟨hs, hreaped⟩ | ⟨e, hs, hreaped⟩
    · exact ⟨by rw [hs, htaken]; exact hr, by rw [hs, hlength]; exact hd,
        by rw [hs, hreaped]; exact hc⟩
    · refine ⟨?_, ?_, ?_⟩
      · rw [hs, htaken, Summary.filteredOut_record, Summary.dispatched_record]
        exact hr
      · rw [hs, hlength, Summary.dispatched_record]
        exact hd
      · rw [hs, hreaped, List.map_append]
        exact hc.snoc e.report

/-! ## What is seen -/

/-- Only running tasks are seen to do anything. -/
theorem trace_of_move {m : Move} (h : p.move? site provider feed m = some q) :
    ∃ new, q.trace = p.trace ++ new ∧ ∀ x ∈ new, x.1 ∈ p.runningTickets := by
  cases m with
  | consume =>
    obtain ⟨change, _, rfl⟩ := Option.map_eq_some_iff.mp h
    refine ⟨[], ?_, by simp⟩
    unfold receive
    split
    · exact (List.append_nil _).symm
    · exact (List.append_nil _).symm
  | acquire place =>
    obtain ⟨task, free, held, _, _, rfl⟩ := acquire?_eq_some h
    exact ⟨[], (List.append_nil _).symm, by simp⟩
  | act place =>
    obtain ⟨r, effect, rest, hr, _, rfl⟩ := act?_eq_some h
    refine ⟨[(r.task.ticket, effect)], rfl, fun x hx => ?_⟩
    rw [List.mem_singleton.mp hx]
    exact List.mem_map_of_mem (List.mem_of_getElem? hr)
  | finish place =>
    obtain ⟨r, ending, report, lines, hr, _, _, rfl⟩ := finish?_eq_some h
    refine ⟨lines.map fun line => (r.task.ticket, .logged line), rfl, fun x hx => ?_⟩
    obtain ⟨line, _, rfl⟩ := List.mem_map.mp hx
    exact List.mem_map_of_mem (List.mem_of_getElem? hr)
  | reap place =>
    obtain ⟨e, _, rfl⟩ := reap?_eq_some h
    exact ⟨[], (List.append_nil _).symm, by simp⟩

/-! ## The law -/

/-- What every state that can come about keeps. -/
theorem kept_of_reachable (h : Reachable site provider feed ceiling p) :
    p.PermitsKept ceiling ∧ p.Staged site feed ∧ p.Counted := by
  unfold Reachable at h
  induction h with
  | refl =>
    refine ⟨⟨?_, fun _ => List.Perm.refl _, fun _ => rfl⟩,
      ⟨fun i hi => absurd hi (Nat.not_lt_zero i), List.Perm.refl _⟩, ⟨rfl, rfl, ⟨rfl, rfl, rfl⟩⟩⟩
    rcases ceiling with _ | permits
    · rfl
    · rfl
  | snoc _ hm ih =>
    obtain ⟨hpermits, hstaged, hcounted⟩ := ih
    exact ⟨hpermits.move hm, hstaged.move hm, hcounted.move hm⟩

/-- The tickets of all tasks, stage by stage, are all different. -/
theorem Staged.nodup (hp : p.Staged site feed) :
    (p.waiting.map (·.ticket) ++ p.runningTickets ++ p.ended.map (·.task.ticket) ++
      p.reaped.map (·.task.ticket)).Nodup := by
  have h := (hp.tasks.map (·.ticket)).nodup_iff.mpr (Feed.nodup_tickets site feed p.taken)
  simp only [Pool.tasks, List.map_append, List.map_map] at h
  exact h

/-- Whoever comes next, in every state that can come about under a ceiling
the free permits and the held ones are all there are; those that are held
are held by the running tasks, one each, so there are no more of these than
the ceiling allows; no ended task holds one, however it ended; and whatever
is seen next is seen of a task that holds one. With a ceiling or without,
each admitted change that was taken is at one stage of four, and nothing
else is at any; every change taken is counted as filtered out or as
dispatched, and every reaped task by its report. -/
theorem permits_and_tasks_are_kept_in_any_order (site : Site) (provider : Provider) (feed : Feed)
    (ceiling : Option Nat) (p : Pool) (h : Reachable site provider feed ceiling p) :
    (∀ permits, ceiling = some permits →
      (∃ free, p.free = some free ∧ free + p.held.length = permits) ∧
      p.held.Nodup ∧ (∀ ticket, ticket ∈ p.held ↔ ∃ r ∈ p.running, r.task.ticket = ticket) ∧
      p.running.length ≤ permits ∧
      (∀ e, e ∈ p.ended ∨ e ∈ p.reaped → e.task.ticket ∉ p.held) ∧
      (∀ move next, p.move? site provider feed move = some next →
        ∃ new, next.trace = p.trace ++ new ∧ ∀ x ∈ new, x.1 ∈ p.held)) ∧
    (∀ i change, i < p.taken → feed i = some change →
      Snapshot.comesFrom site.provisioner (some change.new) = true →
      p.waiting.count ⟨i, change⟩ + (p.running.map (·.task)).count ⟨i, change⟩ +
        (p.ended.map (·.task)).count ⟨i, change⟩ + (p.reaped.map (·.task)).count ⟨i, change⟩ = 1) ∧
    (∀ task, task ∈ p.waiting ∨ task ∈ p.running.map (·.task) ∨ task ∈ p.ended.map (·.task) ∨
      task ∈ p.reaped.map (·.task) →
      task.ticket < p.taken ∧ feed task.ticket = some task.change ∧
        Snapshot.comesFrom site.provisioner (some task.change.new) = true) ∧
    (∀ i, i < p.taken → (feed i).isSome) ∧
    p.summary.filteredOut + p.summary.dispatched = p.taken ∧
    p.summary.dispatched =
      p.waiting.length + p.running.length + p.ended.length + p.reaped.length ∧
    p.summary.completed + p.summary.failed + p.summary.panicked = p.reaped.length ∧
    p.summary.Counts (p.reaped.map (·.report)) := by
  obtain ⟨hpermits, hstaged, hcounted⟩ := kept_of_reachable h
  have hnodup := hstaged.nodup
  refine ⟨?_, ?_, ?_, hstaged.taken, hcounted.received, ?_, ?_, hcounted.reaped⟩
  · rintro permits rfl
    obtain ⟨free, hfree, hall⟩ := Option.map_eq_some_iff.mp hpermits.all
    have hheld := hpermits.holders (by rw [hfree]; rfl)
    have hrunning : p.running.length = p.held.length := by
      rw [hheld.length_eq, runningTickets, List.length_map]
    obtain ⟨hbefore, _, hreaped⟩ := List.nodup_append.mp hnodup
    obtain ⟨hbefore, _, hended⟩ := List.nodup_append.mp hbefore
    obtain ⟨_, hruns, _⟩ := List.nodup_append.mp hbefore
    refine ⟨⟨free, hfree, hall⟩, hheld.nodup_iff.mpr hruns, fun ticket => ?_, by omega, ?_, ?_⟩
    · rw [hheld.mem_iff, runningTickets, List.mem_map]
    · intro e he hin
      have hrun := hheld.mem_iff.mp hin
      rcases he with he | he
      · exact hended _ (List.mem_append_right _ hrun) _ (List.mem_map_of_mem he) rfl
      · exact hreaped _ (List.mem_append_left _ (List.mem_append_right _ hrun)) _
          (List.mem_map_of_mem he) rfl
    · intro move next hmove
      obtain ⟨new, htrace, hnew⟩ := trace_of_move hmove
      exact ⟨new, htrace, fun x hx => hheld.mem_iff.mpr (hnew x hx)⟩
  · intro i change hi hc hours
    have hmem : (⟨i, change⟩ : Task) ∈ feed.tasks site p.taken :=
      (Feed.mem_tasks site feed _ _).mpr ⟨hi, hc, hours⟩
    have hone := List.count_eq_one_of_mem (Feed.nodup_tickets site feed p.taken).of_map hmem
    rw [← hstaged.tasks.count_eq] at hone
    simp only [Pool.tasks, List.count_append] at hone
    exact hone
  · intro task htask
    refine (Feed.mem_tasks site feed _ _).mp (hstaged.tasks.mem_iff.mp ?_)
    simp only [Pool.tasks, List.mem_append]
    tauto
  · rw [hcounted.dispatched, Pool.tasks]
    simp only [List.length_append, List.length_map]
  · rw [hcounted.reaped.sum, List.length_map]

/-- Two tasks under a ceiling of one: the first has panicked in its metadata
call and the second has asked for its session. -/
theorem a_panicked_task_gives_its_permit_back :
    let change : Change := ⟨none, { Snapshot.blank with driver := some "d" }⟩
    ∃ p, Reachable ⟨"d", "p", .empty⟩ (fun _ _ => ⟨.granted, .panic .other, .succeed⟩)
        (fun i => if i < 2 then some change else none) (some 1) p ∧
      p.ended = [⟨⟨0, change⟩, .panicked "unknown panic"⟩] ∧ (1, .requested 1) ∈ p.trace ∧
      p.running.length ≤ 1 ∧ 0 ∉ p.held := by
  intro change
  let p : Pool := (moves? ⟨"d", "p", .empty⟩ (fun _ _ => ⟨.granted, .panic .other, .succeed⟩)
    (fun i => if i < 2 then some change else none) (start (some 1))
    [.consume, .consume, .acquire 0, .act 0, .act 0, .finish 0, .acquire 0, .act 0]).getD
      (start none)
  have hp : Reachable ⟨"d", "p", .empty⟩ (fun _ _ => ⟨.granted, .panic .other, .succeed⟩)
      (fun i => if i < 2 then some change else none) (some 1) p := by
    refine steps_of_moves [.consume, .consume, .acquire 0, .act 0, .act 0, .finish 0,
      .acquire 0, .act 0] ?_
    rfl
  obtain ⟨hpermits, _⟩ := permits_and_tasks_are_kept_in_any_order _ _ _ _ p hp
  obtain ⟨_, _, _, hrunning, hended, _⟩ := hpermits 1 rfl
  exact ⟨p, hp, rfl, by decide, hrunning, hended ⟨⟨0, change⟩, .panicked "unknown panic"⟩
    (Or.inl (List.mem_singleton.mpr rfl))⟩

end Pool

end Supervisor

end VolumeSync
