import Mathlib.Algebra.BigOperators.Group.List.Basic
import Mathlib.Algebra.GroupWithZero.Nat
import VolumeSync.Proofs.TaskEnding

-- The supervisor in any order against each task by itself. Tasks share
-- nothing but the permits and the numbers of their sessions, so what a
-- task is seen to do and how it ends are its own; and while no task hangs,
-- no order of moves comes to a stop before every task has been counted.

namespace VolumeSync

namespace Supervisor

/-! ## A task in the pool and by itself -/

/-- What was seen of a running task and what it still does make up a task
of its change. -/
def Running.IsPartly (site : Site) (provider : Provider) (r : Running) (seen : Trace) : Prop :=
  match r.left with
  | none => seen = []
  | some left => ∃ session, left.after seen =
      Reconcile.run site r.task.change session (provider r.task.ticket session)

/-- What was seen of an ended task and its report are those of a task of
its change. -/
def Ended.IsWholly (site : Site) (provider : Provider) (e : Ended) (seen : Trace) : Prop :=
  ∃ session, (Reconcile.run site e.task.change session
      (provider e.task.ticket session)).watched = seen ∧
    (Reconcile.run site e.task.change session (provider e.task.ticket session)).report? =
      some e.report

namespace Pool

variable {site : Site} {provider : Provider} {feed : Feed} {ceiling : Option Nat} {p q : Pool}

/-- What is seen of the task with the ticket, out of what is seen of all. -/
def ofTicket (ticket : Nat) (trace : List (Nat × Effect)) : Trace :=
  trace.filterMap fun x => if x.1 = ticket then some x.2 else none

/-- What is seen of the task with the ticket. -/
def traceOf (p : Pool) (ticket : Nat) : Trace := ofTicket ticket p.trace

/-- How the task with the ticket was counted. -/
def reportOn (p : Pool) (ticket : Nat) : Option TaskReport :=
  (p.reaped.find? fun e => e.task.ticket == ticket).map (·.report)

/-- The tickets of the tasks that have begun. -/
def begun (p : Pool) : List Nat :=
  p.runningTickets ++ (p.ended.map (·.task.ticket) ++ p.reaped.map (·.task.ticket))

theorem ofTicket_append_self (ticket : Nat) (trace : List (Nat × Effect)) (effects : Trace) :
    ofTicket ticket (trace ++ effects.map fun effect => (ticket, effect)) =
      ofTicket ticket trace ++ effects := by
  unfold ofTicket
  rw [List.filterMap_append, List.filterMap_map]
  simp

theorem ofTicket_append_of_ne {ticket other : Nat} (h : ticket ≠ other)
    (trace : List (Nat × Effect)) (effects : Trace) :
    ofTicket ticket (trace ++ effects.map fun effect => (other, effect)) =
      ofTicket ticket trace := by
  unfold ofTicket
  rw [List.filterMap_append, List.filterMap_map]
  simp [Ne.symm h]

theorem mem_traceOf {ticket : Nat} {effect : Effect} :
    effect ∈ p.traceOf ticket ↔ (ticket, effect) ∈ p.trace := by
  unfold traceOf ofTicket
  rw [List.mem_filterMap]
  constructor
  · rintro ⟨⟨other, seen⟩, hmem, h⟩
    by_cases hticket : other = ticket
    · rw [if_pos hticket] at h
      cases h
      rw [← hticket]
      exact hmem
    · rw [if_neg hticket] at h
      cases h
  · intro hmem
    exact ⟨(ticket, effect), hmem, if_pos rfl⟩

/-- Whatever the number of its session turns out to be, a task goes on as
a task of its change does. -/
theorem exists_plan_after {r : Running} {seen : Trace} (h : r.IsPartly site provider seen) :
    ∃ session, (p.plan site provider r).after seen =
      Reconcile.run site r.task.change session (provider r.task.ticket session) := by
  unfold Running.IsPartly at h
  unfold plan
  rcases hl : r.left with _ | left
  · rw [hl] at h
    rw [h]
    exact ⟨p.seen.requests.length, rfl⟩
  · rw [hl] at h
    exact h

/-- Every task is seen to do what it does by itself. -/
structure Apart (site : Site) (provider : Provider) (p : Pool) : Prop where
  idle : ∀ ticket, ticket ∉ p.begun → p.traceOf ticket = []
  running : ∀ r ∈ p.running, r.IsPartly site provider (p.traceOf r.task.ticket)
  done : ∀ e, e ∈ p.ended ∨ e ∈ p.reaped → e.IsWholly site provider (p.traceOf e.task.ticket)

/-- A task is in the pool once. -/
theorem Staged.begun_once (hp : p.Staged site feed) :
    p.begun.Nodup ∧ ∀ task ∈ p.waiting, task.ticket ∉ p.begun := by
  have h := hp.nodup
  simp only [List.append_assoc] at h
  obtain ⟨_, hbegun, hapart⟩ := List.nodup_append.mp h
  refine ⟨hbegun, ?_⟩
  intro task htask hmem
  exact hapart _ (List.mem_map_of_mem htask) _ hmem rfl

theorem Staged.ticket_ne {place : Nat} {r : Running} (hp : p.Staged site feed)
    (hr : p.running[place]? = some r) :
    (∀ x ∈ p.running.eraseIdx place, x.task.ticket ≠ r.task.ticket) ∧
      ∀ e, e ∈ p.ended ∨ e ∈ p.reaped → e.task.ticket ≠ r.task.ticket := by
  obtain ⟨hrunning, _, hapart⟩ := List.nodup_append.mp hp.begun_once.1
  refine ⟨?_, ?_⟩
  · intro x hx heq
    have hnodup := (perm_runningTickets hr).nodup_iff.mp hrunning
    refine (List.nodup_cons.mp hnodup).1 ?_
    rw [← heq]
    exact List.mem_map_of_mem hx
  · intro e he heq
    refine hapart r.task.ticket (List.mem_map_of_mem (List.mem_of_getElem? hr)) _ ?_ heq.symm
    rw [List.mem_append]
    exact he.imp List.mem_map_of_mem List.mem_map_of_mem

/-! ## Every move keeps the tasks apart -/

/-- What is seen of one running task is not seen of the others. -/
theorem Apart.others {place : Nat} {r : Running} (hp : p.Apart site provider)
    (hs : p.Staged site feed) (hr : p.running[place]? = some r) (effects : Trace) :
    let trace := p.trace ++ effects.map fun effect => (r.task.ticket, effect)
    (∀ ticket, ticket ∉ p.begun → ofTicket ticket trace = []) ∧
    (∀ x ∈ p.running.eraseIdx place, x.IsPartly site provider (ofTicket x.task.ticket trace)) ∧
    (∀ e, e ∈ p.ended ∨ e ∈ p.reaped →
      e.IsWholly site provider (ofTicket e.task.ticket trace)) := by
  intro trace
  obtain ⟨hrunning, hended⟩ := hs.ticket_ne hr
  have hother : ∀ ticket, ticket ≠ r.task.ticket → ofTicket ticket trace = p.traceOf ticket :=
    fun ticket hne => ofTicket_append_of_ne hne p.trace effects
  refine ⟨?_, ?_, ?_⟩
  · intro ticket hticket
    rw [hother ticket, hp.idle ticket hticket]
    rintro rfl
    exact hticket (List.mem_append_left _ (List.mem_map_of_mem (List.mem_of_getElem? hr)))
  · intro x hx
    rw [hother _ (hrunning x hx)]
    exact hp.running x (List.mem_of_mem_eraseIdx hx)
  · intro e he
    rw [hother _ (hended e he)]
    exact hp.done e he

theorem Apart.acquire {place : Nat} (hp : p.Apart site provider) (hs : p.Staged site feed)
    (h : p.acquire? place = some q) : q.Apart site provider := by
  obtain ⟨task, free, held, hw, _, rfl⟩ := acquire?_eq_some h
  have hfresh := hs.begun_once.2 task (List.mem_of_getElem? hw)
  refine ⟨?_, ?_, hp.done⟩
  · intro ticket hticket
    apply hp.idle ticket
    intro hmem
    apply hticket
    unfold begun runningTickets at hmem ⊢
    simp only [List.map_append, List.mem_append] at hmem ⊢
    tauto
  · intro r hr
    rcases List.mem_append.mp hr with hr | hr
    · exact hp.running r hr
    · rw [List.mem_singleton.mp hr]
      exact hp.idle task.ticket hfresh

theorem Apart.act {place : Nat} (hp : p.Apart site provider) (hs : p.Staged site feed)
    (h : p.act? site provider place = some q) : q.Apart site provider := by
  obtain ⟨r, effect, rest, hr, hplan, rfl⟩ := act?_eq_some h
  have hmem := List.mem_of_getElem? hr
  have hsame := map_set_of_eq (·.task.ticket)
    (⟨r.task, some ⟨rest, (p.plan site provider r).ending⟩⟩ : Running) hr rfl
  obtain ⟨hidle, hrest, hdone⟩ := hp.others hs hr [effect]
  refine ⟨?_, ?_, hdone⟩
  · intro ticket hticket
    simp only [begun, runningTickets, hsame] at hticket
    exact hidle ticket hticket
  · intro x hx
    obtain ⟨hlt, _⟩ := List.getElem?_eq_some_iff.mp hr
    rcases List.mem_cons.mp ((List.set_perm_cons_eraseIdx hlt _).mem_iff.mp hx) with rfl | hx
    -- What the task has just done is seen, and is no longer left.
    · obtain ⟨session, hrun⟩ := exists_plan_after (p := p) (hp.running r hmem)
      refine ⟨session, ?_⟩
      rw [← hrun]
      have hown := ofTicket_append_self r.task.ticket p.trace [effect]
      simp only [List.map_cons, List.map_nil] at hown
      simp [TaskRun.after, traceOf, hown, hplan]
    · exact hrest x hx

/-- The supervisor's line on the end of a task goes with its report. -/
theorem lines_of_report? {ending : Ending} {report : TaskReport} {lines : List LogLine}
    (h : ending.report? = some (report, lines)) : lines = ending.line?.toList := by
  cases ending with
  | finished outcome => cases h; rfl
  | sessionFailed f => cases h; rfl
  | panicked payload => cases h; rfl
  | hung => cases h

theorem Apart.finish {place : Nat} (hp : p.Apart site provider) (hs : p.Staged site feed)
    (h : p.finish? site provider place = some q) : q.Apart site provider := by
  obtain ⟨r, ending, report, lines, hr, hplan, hreport, rfl⟩ := finish?_eq_some h
  have hlines : (lines.map fun line => (r.task.ticket, Effect.logged line)) =
      (lines.map Effect.logged).map fun effect => (r.task.ticket, effect) := by
    rw [List.map_map]
    rfl
  obtain ⟨hidle, hrest, hdone⟩ := hp.others hs hr (lines.map Effect.logged)
  rw [← hlines] at hidle hrest hdone
  refine ⟨?_, hrest, ?_⟩
  · intro ticket hticket
    apply hidle ticket
    intro hbegun
    apply hticket
    have hperm := (perm_runningTickets hr).mem_iff (a := ticket)
    simp only [begun, runningTickets, List.mem_append, List.map_append, List.map_cons,
      List.map_nil, List.mem_singleton] at hbegun hperm ⊢
    rw [hperm, List.mem_cons] at hbegun
    tauto
  · intro e he
    by_cases hnew : e = ⟨r.task, report⟩
    · subst hnew
      obtain ⟨session, hrun⟩ :=
        exists_plan_after (p := p) (hp.running r (List.mem_of_getElem? hr))
      refine ⟨session, ?_, ?_⟩
      · simp only [traceOf]
        rw [hlines, ofTicket_append_self, ← hrun, lines_of_report? hreport]
        simp [TaskRun.watched, TaskRun.after, traceOf, hplan]
      · rw [← hrun]
        simp [TaskRun.report?, TaskRun.after, hplan, hreport]
    · apply hdone
      rcases he with he | he
      · rcases List.mem_append.mp he with he | he
        · exact Or.inl he
        · exact absurd (List.mem_singleton.mp he) hnew
      · exact Or.inr he

theorem Apart.reap {place : Nat} (hp : p.Apart site provider) (h : p.reap? place = some q) :
    q.Apart site provider := by
  obtain ⟨e, he, rfl⟩ := reap?_eq_some h
  have hmem := List.mem_of_getElem? he
  refine ⟨?_, hp.running, ?_⟩
  · intro ticket hticket
    apply hp.idle ticket
    intro hbegun
    apply hticket
    have hperm := ((perm_cons_eraseIdx he).map fun x : Ended => x.task.ticket).mem_iff
      (a := ticket)
    simp only [begun, runningTickets, List.mem_append, List.map_append, List.map_cons,
      List.map_nil, List.mem_cons, List.not_mem_nil, or_false] at hbegun hperm ⊢
    tauto
  · intro x hx
    apply hp.done x
    rcases hx with hx | hx
    · exact Or.inl (List.mem_of_mem_eraseIdx hx)
    · rcases List.mem_append.mp hx with hx | hx
      · exact Or.inr hx
      · rw [List.mem_singleton.mp hx]
        exact Or.inl hmem

theorem Apart.move {m : Move} (hp : p.Apart site provider) (hs : p.Staged site feed)
    (h : p.move? site provider feed m = some q) : q.Apart site provider := by
  cases m with
  | consume =>
    obtain ⟨change, _, rfl⟩ := Option.map_eq_some_iff.mp h
    unfold receive
    split
    · exact ⟨hp.idle, hp.running, hp.done⟩
    · exact ⟨hp.idle, hp.running, hp.done⟩
  | acquire place => exact hp.acquire hs h
  | act place => exact hp.act hs h
  | finish place => exact hp.finish hs h
  | reap place => exact hp.reap h

theorem apart_of_reachable (h : Reachable site provider feed ceiling p) :
    p.Apart site provider := by
  unfold Reachable at h
  induction h with
  | refl => exact ⟨fun _ _ => rfl, by simp [start], by simp [start]⟩
  | snoc hsteps hm ih => exact ih.move (kept_of_reachable hsteps).2.1 hm

/-- What is seen under a ticket is the beginning of what is seen of a task of
the change with that number, which is one of the site's own. -/
theorem exists_traceOf_isPrefix (h : Reachable site provider feed ceiling p) {ticket : Nat}
    (hseen : p.traceOf ticket ≠ []) :
    ∃ change session, feed ticket = some change ∧
      Snapshot.comesFrom site.provisioner (some change.new) = true ∧
      p.traceOf ticket <+:
        (Reconcile.run site change session (provider ticket session)).watched := by
  have hapart := apart_of_reachable h
  have hbegun : ticket ∈ p.begun := by
    by_contra hnot
    exact hseen (hapart.idle ticket hnot)
  have hmine : ∃ task ∈ p.tasks, task.ticket = ticket ∧ ∃ session, p.traceOf ticket <+:
      (Reconcile.run site task.change session (provider ticket session)).watched := by
    have hdone : ∀ e, e ∈ p.ended ∨ e ∈ p.reaped → ∃ session, p.traceOf e.task.ticket <+:
        (Reconcile.run site e.task.change session (provider e.task.ticket session)).watched := by
      intro e he
      obtain ⟨session, hwatched, _⟩ := hapart.done e he
      exact ⟨session, hwatched ▸ List.prefix_refl _⟩
    simp only [begun, runningTickets, List.mem_append, List.mem_map] at hbegun
    simp only [tasks, List.mem_append, List.mem_map]
    rcases hbegun with ⟨r, hr, rfl⟩ | ⟨e, he, rfl⟩ | ⟨e, he, rfl⟩
    · obtain ⟨session, hrun⟩ := exists_plan_after (p := p) (hapart.running r hr)
      refine ⟨r.task, Or.inl (Or.inl (Or.inr ⟨r, hr, rfl⟩)), rfl, session, ?_⟩
      rw [← hrun, TaskRun.watched, TaskRun.after, List.append_assoc]
      exact List.prefix_append _ _
    · exact ⟨e.task, Or.inl (Or.inr ⟨e, he, rfl⟩), rfl, hdone e (Or.inl he)⟩
    · exact ⟨e.task, Or.inr ⟨e, he, rfl⟩, rfl, hdone e (Or.inr he)⟩
  obtain ⟨task, htask, rfl, session, hcut⟩ := hmine
  have hstaged := (kept_of_reachable h).2.1
  obtain ⟨_, hchange, hours⟩ :=
    (Feed.mem_tasks site feed _ task).mp (hstaged.tasks.mem_iff.mp htask)
  exact ⟨task.change, session, hchange, hours, hcut⟩

/-! ## Every order comes to a stop -/

/-- A bound on the moves that are still to come of a running task: what it
is still seen to do, its end, and its count. -/
def stepsLeft (r : Running) : Nat :=
  match r.left with
  | none => 9
  | some left => left.trace.length + 2

/-- A bound on the moves to come while so many changes are in the stream: a
change is taken, its task gets its permit, has at most seven effects, ends
and is counted. -/
def toCome (total : Nat) (p : Pool) : Nat :=
  11 * (total - p.taken) + 10 * p.waiting.length + (p.running.map stepsLeft).sum +
    p.ended.length

theorem length_plan_lt {r : Running} {effect : Effect} {rest : Trace}
    (h : (p.plan site provider r).trace = effect :: rest) : rest.length + 2 < stepsLeft r := by
  unfold plan at h
  unfold stepsLeft
  rcases hl : r.left with _ | left
  · rw [hl] at h
    have hle := Reconcile.length_trace_run_le site r.task.change p.seen.requests.length
      (provider r.task.ticket p.seen.requests.length)
    simp only [Option.getD_none] at h
    rw [h, List.length_cons] at hle
    simp only
    omega
  · rw [hl] at h
    simp only [Option.getD_some] at h
    simp only [h, List.length_cons]
    omega

theorem sum_toCome {place : Nat} {r : Running} (h : p.running[place]? = some r) :
    (p.running.map stepsLeft).sum =
      stepsLeft r + ((p.running.eraseIdx place).map stepsLeft).sum := by
  rw [((perm_cons_eraseIdx h).map stepsLeft).sum_eq, List.map_cons, List.sum_cons]

/-- Every move leaves fewer to come. -/
theorem toCome_lt_of_move {events : List Change} {m : Move}
    (h : p.move? site provider (Feed.ofList events) m = some q) :
    q.toCome events.length < p.toCome events.length := by
  cases m with
  | consume =>
    obtain ⟨change, hc, rfl⟩ := Option.map_eq_some_iff.mp h
    obtain ⟨hlt, _⟩ := List.getElem?_eq_some_iff.mp hc
    unfold receive
    split
    · simp only [toCome, List.length_append, List.length_singleton]
      omega
    · simp only [toCome]
      omega
  | acquire place =>
    obtain ⟨task, free, held, hw, _, rfl⟩ := acquire?_eq_some h
    have hlen := (perm_cons_eraseIdx hw).length_eq
    rw [List.length_cons] at hlen
    simp only [toCome, List.map_append, List.sum_append, List.map_cons, List.map_nil,
      List.sum_cons, List.sum_nil, stepsLeft]
    omega
  | act place =>
    obtain ⟨r, effect, rest, hr, hplan, rfl⟩ := act?_eq_some h
    obtain ⟨hlt, _⟩ := List.getElem?_eq_some_iff.mp hr
    have hsum := ((List.set_perm_cons_eraseIdx hlt
      (⟨r.task, some ⟨rest, (p.plan site provider r).ending⟩⟩ : Running)).map
        stepsLeft).sum_eq
    have hrest := length_plan_lt hplan
    have hold := sum_toCome hr
    rw [List.map_cons, List.sum_cons] at hsum
    simp only [toCome]
    rw [hsum, hold]
    simp only [stepsLeft] at hrest ⊢
    omega
  | finish place =>
    obtain ⟨r, ending, report, lines, hr, hplan, _, rfl⟩ := finish?_eq_some h
    have hold := sum_toCome hr
    have htwo : 2 ≤ stepsLeft r := by
      unfold stepsLeft
      split
      · omega
      · omega
    simp only [toCome, List.length_append, List.length_singleton]
    omega
  | reap place =>
    obtain ⟨e, he, rfl⟩ := reap?_eq_some h
    have hlen := (perm_cons_eraseIdx he).length_eq
    rw [List.length_cons] at hlen
    simp only [toCome]
    omega

/-- No run takes more moves than there were to come. -/
theorem length_moves_le {events : List Change} (moves : List Move)
    (h : p.moves? site provider (Feed.ofList events) moves = some q) :
    moves.length + q.toCome events.length ≤ p.toCome events.length := by
  induction moves generalizing p with
  | nil =>
    cases h
    simp
  | cons m moves ih =>
    obtain ⟨r, hm, hr⟩ := Option.bind_eq_some_iff.mp h
    have hlt := toCome_lt_of_move hm
    have hle := ih hr
    rw [List.length_cons]
    omega

/-- Nothing can happen any more. -/
def Complete (site : Site) (provider : Provider) (feed : Feed) (p : Pool) : Prop :=
  ∀ m, p.move? site provider feed m = none

/-- Whatever has happened, moves lead on to a state in which nothing can
happen any more. -/
theorem exists_complete (site : Site) (provider : Provider) (events : List Change) (p : Pool) :
    ∃ q, Steps site provider (Feed.ofList events) p q ∧
      q.Complete site provider (Feed.ofList events) := by
  induction hn : p.toCome events.length using Nat.strongRecOn generalizing p with
  | ind n ih =>
    by_cases hp : p.Complete site provider (Feed.ofList events)
    · exact ⟨p, Steps.refl, hp⟩
    · unfold Complete at hp
      push Not at hp
      obtain ⟨m, hm⟩ := hp
      obtain ⟨next, hnext⟩ := Option.ne_none_iff_exists'.mp hm
      obtain ⟨q, hsteps, hq⟩ := ih _ (hn ▸ toCome_lt_of_move hnext) next rfl
      exact ⟨q, (Steps.single hnext).trans hsteps, hq⟩

/-! ## No order stops early -/

theorem isSome_report? {ending : Ending} (h : ending ≠ .hung) : ending.report?.isSome := by
  cases ending with
  | finished outcome => rfl
  | sessionFailed f => rfl
  | panicked payload => rfl
  | hung => exact absurd rfl h

/-- A running task that does not hang can go on. -/
theorem exists_move_of_running (feed : Feed) {place : Nat} {r : Running}
    (hr : p.running[place]? = some r) (hend : (p.plan site provider r).ending ≠ .hung) :
    ∃ m, p.move? site provider feed m ≠ none := by
  rcases hplan : p.plan site provider r with ⟨_ | ⟨effect, rest⟩, ending⟩
  · refine ⟨.finish place, ?_⟩
    rw [hplan] at hend
    obtain ⟨report, hreport⟩ := Option.isSome_iff_exists.mp (isSome_report? hend)
    simp [move?, finish?, hr, hplan, hreport]
  · refine ⟨.act place, ?_⟩
    simp [move?, act?, hr, hplan]

/-- Every change was taken and every task counted. -/
structure Settled (events : List Change) (p : Pool) : Prop where
  taken : p.taken = events.length
  waiting : p.waiting = []
  running : p.running = []
  ended : p.ended = []

/-- Where nothing can happen any more, everything is settled: a task that
waited would find a permit free, as no other is running. -/
theorem settled_of_complete {events : List Change} (hceiling : ceiling ≠ some 0)
    (hends : ∀ i change session, events[i]? = some change →
      (Reconcile.run site change session (provider i session)).ending ≠ .hung)
    (h : Reachable site provider (Feed.ofList events) ceiling p)
    (hc : p.Complete site provider (Feed.ofList events)) : p.Settled events := by
  obtain ⟨hpermits, hstaged, _⟩ := kept_of_reachable h
  have hended : p.ended = [] := by
    rcases he : p.ended with _ | ⟨e, rest⟩
    · rfl
    · have hreap := hc (.reap 0)
      simp [move?, reap?, he] at hreap
  have hrunning : p.running = [] := by
    rcases hr : p.running with _ | ⟨r, rest⟩
    · rfl
    · have hmem : r ∈ p.running := by
        rw [hr]
        exact List.mem_cons_self
      obtain ⟨session, hplan⟩ :=
        exists_plan_after (p := p) ((apart_of_reachable h).running r hmem)
      have htask : r.task ∈ (Feed.ofList events).tasks site p.taken := by
        refine hstaged.tasks.mem_iff.mp ?_
        simp only [tasks, List.mem_append]
        exact Or.inl (Or.inl (Or.inr (List.mem_map_of_mem hmem)))
      obtain ⟨_, hchange, _⟩ := (Feed.mem_tasks site _ _ _).mp htask
      have hend : (p.plan site provider r).ending ≠ .hung := by
        have hend := hends r.task.ticket r.task.change session hchange
        rw [← hplan] at hend
        exact hend
      obtain ⟨m, hm⟩ := exists_move_of_running (Feed.ofList events)
        (show p.running[0]? = some r by rw [hr]; rfl) hend
      exact absurd (hc m) hm
  have hwaiting : p.waiting = [] := by
    rcases hw : p.waiting with _ | ⟨task, rest⟩
    · rfl
    · have hacquire := hc (.acquire 0)
      rcases hf : p.free with _ | _ | free
      · simp [move?, acquire?, hw, hf] at hacquire
      · have hheld := (hpermits.holders (by rw [hf]; rfl)).length_eq
        have hall := hpermits.all
        rw [hf, hheld, runningTickets, hrunning] at hall
        exact absurd hall.symm hceiling
      · simp [move?, acquire?, hw, hf] at hacquire
  refine ⟨?_, hwaiting, hrunning, hended⟩
  have hnone : events[p.taken]? = none := by
    have hconsume := hc .consume
    simp only [move?, Option.map_eq_none_iff] at hconsume
    exact hconsume
  have hge := List.getElem?_eq_none_iff.mp hnone
  by_contra hne
  have hsome := hstaged.taken events.length (by omega)
  simp [Feed.ofList] at hsome

/-! ## Each task by itself -/

/-- The task of a change by itself, if the change gets one. -/
def alone? (site : Site) (behaviour : Nat → Behaviour) (feed : Feed) (i : Nat) :
    Option TaskRun :=
  (feed.task? site i).map fun task => Reconcile.run site task.change 0 (behaviour i)

section Alone

variable {behaviour : Nat → Behaviour}

/-- An ended task was counted as the same task by itself. -/
theorem report?_of_isWholly {e : Ended} {seen : Trace}
    (h : e.IsWholly site (fun i _ => behaviour i) seen) :
    (Reconcile.run site e.task.change 0 (behaviour e.task.ticket)).report? = some e.report ∧
      (Reconcile.run site e.task.change 0 (behaviour e.task.ticket)).watched =
        seen.map (Effect.renumbered 0) := by
  obtain ⟨session, hseen, hreport⟩ := h
  have hrun := Reconcile.renumbered_run site e.task.change session 0 (behaviour e.task.ticket)
  refine ⟨?_, ?_⟩
  · rw [← hrun]
    exact hreport
  · rw [← hrun, TaskRun.watched_renumbered, hseen]

/-- The changes whose tasks have been counted are those that get one. -/
theorem exists_reaped_iff {events : List Change} (hstaged : p.Staged site (Feed.ofList events))
    (hall : p.Settled events) (task : Task) :
    (∃ e ∈ p.reaped, e.task = task) ↔
      (Feed.ofList events).task? site task.ticket = some task := by
  obtain ⟨htaken, hwaiting, hrunning, hended⟩ := hall
  have hmem := hstaged.tasks.mem_iff (a := task)
  simp only [tasks, hwaiting, hrunning, hended, List.map_nil, List.nil_append, List.mem_map]
    at hmem
  rw [hmem, Feed.mem_tasks, Feed.task?_eq_some, htaken]
  constructor
  · rintro ⟨_, h⟩
    exact ⟨rfl, h⟩
  · rintro ⟨_, hc, hours⟩
    exact ⟨(List.getElem?_eq_some_iff.mp hc).1, hc, hours⟩

theorem alone_of_settled {events : List Change}
    (h : Reachable site (fun i _ => behaviour i) (Feed.ofList events) ceiling p)
    (hall : p.Settled events) (i : Nat) :
    p.reportOn i = (alone? site behaviour (Feed.ofList events) i).bind TaskRun.report? ∧
      (p.traceOf i).map (Effect.renumbered 0) =
        ((alone? site behaviour (Feed.ofList events) i).map TaskRun.watched).getD [] := by
  have hstaged := (kept_of_reachable h).2.1
  have hapart := apart_of_reachable h
  have htask := exists_reaped_iff hstaged hall
  unfold alone? reportOn
  rcases hfind : p.reaped.find? (fun e => e.task.ticket == i) with _ | e
  -- No task of the change was counted, so it has none.
  · have hno : ∀ e ∈ p.reaped, e.task.ticket ≠ i := by
      intro e he heq
      have hf := List.find?_eq_none.mp hfind e he
      exact hf (beq_iff_eq.mpr heq)
    have hnone : (Feed.ofList events).task? site i = none := by
      rcases ht : (Feed.ofList events).task? site i with _ | task
      · rfl
      · obtain ⟨hticket, _⟩ := (Feed.task?_eq_some site _ _ _).mp ht
        obtain ⟨e, he, heq⟩ := (htask task).mpr (by rw [hticket]; exact ht)
        exact absurd (by rw [heq]; exact hticket) (hno e he)
    have hidle : p.traceOf i = [] := by
      refine hapart.idle i ?_
      unfold begun runningTickets
      obtain ⟨_, _, hrunning, hended⟩ := hall
      rw [hrunning, hended, List.map_nil, List.map_nil, List.nil_append, List.nil_append]
      intro hmem
      obtain ⟨e, he, heq⟩ := List.mem_map.mp hmem
      exact hno e he heq
    rw [hfind, hnone, hidle]
    exact ⟨rfl, rfl⟩
  · have he := List.mem_of_find?_eq_some hfind
    have hticket : e.task.ticket = i := by
      have hf := List.find?_some hfind
      exact beq_iff_eq.mp hf
    have ht := (htask e.task).mp ⟨e, he, rfl⟩
    obtain ⟨hreport, hseen⟩ := report?_of_isWholly (hapart.done e (Or.inr he))
    rw [hticket] at ht hreport hseen
    rw [hfind, ht]
    exact ⟨hreport.symm, hseen.symm⟩

/-- The reports that were counted, in whatever order, are those of the
tasks by themselves. -/
theorem reports_of_settled {events : List Change}
    (h : Reachable site (fun i _ => behaviour i) (Feed.ofList events) ceiling p)
    (hall : p.Settled events) :
    (p.reaped.map (·.report)).Perm (((Feed.ofList events).tasks site events.length).filterMap
      fun task => (Reconcile.run site task.change 0 (behaviour task.ticket)).report?) := by
  have hstaged := (kept_of_reachable h).2.1
  have hapart := apart_of_reachable h
  obtain ⟨htaken, hwaiting, hrunning, hended⟩ := hall
  have hreports : p.reaped.map (·.report) = (p.reaped.map (·.task)).filterMap fun task =>
      (Reconcile.run site task.change 0 (behaviour task.ticket)).report? := by
    rw [List.filterMap_map, ← List.filterMap_eq_map]
    refine List.filterMap_congr fun e he => ?_
    exact (report?_of_isWholly (hapart.done e (Or.inr he))).1.symm
  have hperm := hstaged.tasks
  simp only [tasks, hwaiting, hrunning, hended, List.map_nil, List.nil_append, htaken] at hperm
  rw [hreports]
  exact hperm.filterMap _

/-- Settled runs show each change as by itself: its task, or none. -/
theorem each_of_settled {events : List Change} {i : Nat} {change : Change}
    (h : Reachable site (fun i _ => behaviour i) (Feed.ofList events) ceiling p)
    (hall : p.Settled events) (hi : events[i]? = some change)
    (hend : (Reconcile.run site change 0 (behaviour i)).ending ≠ .hung) :
    if Snapshot.comesFrom site.provisioner (some change.new) then
      (p.reportOn i).isSome ∧
      p.reportOn i = (Reconcile.run site change 0 (behaviour i)).report? ∧
      ∃ session, p.traceOf i = (Reconcile.run site change session (behaviour i)).watched
    else p.reportOn i = none ∧ p.traceOf i = [] := by
  have halone := alone_of_settled h hall i
  have htask : (Feed.ofList events).task? site i =
      if Snapshot.comesFrom site.provisioner (some change.new) then some ⟨i, change⟩
      else none := by
    rw [Feed.task?, show (Feed.ofList events) i = some change from hi, Option.bind_some]
  rw [alone?, htask] at halone
  split
  · rename_i hours
    rw [if_pos hours, Option.map_some, Option.bind_some] at halone
    obtain ⟨e, he, heq⟩ := (exists_reaped_iff (kept_of_reachable h).2.1 hall ⟨i, change⟩).mpr
      (htask.trans (if_pos hours))
    obtain ⟨session, hseen, _⟩ := (apart_of_reachable h).done e (Or.inr he)
    rw [heq] at hseen
    refine ⟨?_, halone.1, session, hseen.symm⟩
    rw [halone.1, TaskRun.report?, Option.isSome_map]
    exact isSome_report? hend
  · rename_i hforeign
    rw [if_neg hforeign] at halone
    exact ⟨halone.1, List.map_eq_nil_iff.mp halone.2⟩

/-- Numbers that count the same reports are the same. -/
theorem summary_eq_of_counts {s t : Summary} {xs ys : List TaskReport} (hs : s.Counts xs)
    (ht : t.Counts ys) (hperm : xs.Perm ys) (hf : s.filteredOut = t.filteredOut)
    (hd : s.dispatched = t.dispatched) : s = t := by
  have hc := hperm.countP_eq TaskReport.isCompleted
  have hfail := hperm.countP_eq TaskReport.isFailed
  have hp := hperm.countP_eq TaskReport.isPanicked
  rw [← hs.completed, ← ht.completed] at hc
  rw [← hs.failed, ← ht.failed] at hfail
  rw [← hs.panicked, ← ht.panicked] at hp
  cases s
  cases t
  simp_all

theorem summary_of_settled {events : List Change}
    (hp : Reachable site (fun i _ => behaviour i) (Feed.ofList events) ceiling p)
    (hq : Reachable site (fun i _ => behaviour i) (Feed.ofList events) ceiling q)
    (hpall : p.Settled events) (hqall : q.Settled events) : p.summary = q.summary := by
  obtain ⟨_, hpstaged, hpcounted⟩ := kept_of_reachable hp
  obtain ⟨_, hqstaged, hqcounted⟩ := kept_of_reachable hq
  have hreports := (reports_of_settled hp hpall).trans (reports_of_settled hq hqall).symm
  have hd : p.summary.dispatched = q.summary.dispatched := by
    rw [hpcounted.dispatched, hqcounted.dispatched, hpstaged.tasks.length_eq,
      hqstaged.tasks.length_eq, hpall.taken, hqall.taken]
  apply summary_eq_of_counts hpcounted.reaped hqcounted.reaped hreports _ hd
  have hpsum := hpcounted.received
  have hqsum := hqcounted.received
  rw [hpall.taken] at hpsum
  rw [hqall.taken] at hqsum
  omega

end Alone

/-! ## The law -/

/-- Who comes next makes no difference. Let the provider treat each task in
a way of its own, with no call that hangs, and let there be no ceiling or
one of at least one permit. Then runs are of a bounded length, and each can
go on until nothing can happen any more. Wherever that is, every change was
taken and every task counted, with the report of the task by itself, and
the task was seen to do what it does by itself but for the number of its
session. So any two such states have the same numbers, the same reports and
the same sequence of effects of each task. -/
theorem the_order_makes_no_difference (site : Site) (behaviour : Nat → Behaviour)
    (events : List Change) (ceiling : Option Nat) (hceiling : ceiling ≠ some 0)
    (hcalls : ∀ i change, events[i]? = some change →
      Reconcile.playsHang change (behaviour i) = false) :
    let provider : Provider := fun i _ => behaviour i
    let feed := Feed.ofList events
    (∀ moves p, (start ceiling).moves? site provider feed moves = some p →
      moves.length ≤ 11 * events.length) ∧
    (∀ p, Reachable site provider feed ceiling p →
      ∃ q, Steps site provider feed p q ∧ q.Complete site provider feed) ∧
    (∀ p, Reachable site provider feed ceiling p → p.Complete site provider feed →
      p.taken = events.length ∧ p.waiting = [] ∧ p.running = [] ∧ p.ended = [] ∧
      ∀ i change, events[i]? = some change →
        if Snapshot.comesFrom site.provisioner (some change.new) then
          (p.reportOn i).isSome ∧
          p.reportOn i = (Reconcile.run site change 0 (behaviour i)).report? ∧
          ∃ session, p.traceOf i = (Reconcile.run site change session (behaviour i)).watched
        else p.reportOn i = none ∧ p.traceOf i = []) ∧
    (∀ p q, Reachable site provider feed ceiling p → p.Complete site provider feed →
      Reachable site provider feed ceiling q → q.Complete site provider feed →
      p.summary = q.summary ∧ ∀ i, p.reportOn i = q.reportOn i ∧
        (p.traceOf i).map (Effect.renumbered 0) = (q.traceOf i).map (Effect.renumbered 0)) := by
  intro provider feed
  have hends : ∀ i change session, events[i]? = some change →
      (Reconcile.run site change session (provider i session)).ending ≠ .hung := by
    intro i change session hi hend
    have hplays := (Reconcile.ending_eq_hung_iff site change session (behaviour i)).mp hend
    rw [hcalls i change hi] at hplays
    cases hplays
  have hsettled := fun p (hp : Reachable site provider feed ceiling p)
    (hc : p.Complete site provider feed) => settled_of_complete hceiling hends hp hc
  refine ⟨?_, ?_, ?_, ?_⟩
  · intro moves p hp
    have hle := length_moves_le moves hp
    simp only [toCome, start, List.map_nil, List.sum_nil, List.length_nil] at hle
    omega
  · intro p _
    exact exists_complete site provider events p
  · intro p hp hc
    have hall := hsettled p hp hc
    refine ⟨hall.taken, hall.waiting, hall.running, hall.ended, ?_⟩
    intro i change hi
    exact each_of_settled hp hall hi (hends i change 0 hi)
  · intro p q hp hpc hq hqc
    have hpall := hsettled p hp hpc
    have hqall := hsettled q hq hqc
    refine ⟨summary_of_settled hp hq hpall hqall, ?_⟩
    intro i
    have hpi := alone_of_settled hp hpall i
    have hqi := alone_of_settled hq hqall i
    exact ⟨hpi.1.trans hqi.1.symm, hpi.2.trans hqi.2.symm⟩

/-- Under a ceiling of one, a task that panics in its request and a task
after it that is refused its tags: in whatever order they come, both are
counted, each with its own report. -/
theorem a_panic_and_a_failure_in_any_order :
    let change : Change :=
      ⟨some { Snapshot.blank with driver := some "d" },
        { Snapshot.blank with driver := some "d", phase := .bound }⟩
    let behaviour : Nat → Behaviour := fun i =>
      if i = 0 then ⟨.panic .other, .succeed, .hang⟩ else ⟨.granted, .succeed, .fail (.plain "no")⟩
    (∀ i c, [change, change][i]? = some c → Reconcile.playsHang c (behaviour i) = false) ∧
    ∃ p, Reachable ⟨"d", "p", .empty⟩ (fun i _ => behaviour i) (Feed.ofList [change, change])
        (some 1) p ∧ p.Complete ⟨"d", "p", .empty⟩ (fun i _ => behaviour i)
        (Feed.ofList [change, change]) ∧
      p.reportOn 0 = some (.panicked "unknown panic") ∧
      p.reportOn 1 = some (.completed (.updated true (some false))) := by
  intro change behaviour
  have hcalls : ∀ i c, [change, change][i]? = some c →
      Reconcile.playsHang c (behaviour i) = false := by
    intro i c hc
    rcases i with _ | _ | i
    · cases hc
      decide
    · cases hc
      decide
    · simp at hc
  obtain ⟨_, hgoes, hdone, _⟩ := the_order_makes_no_difference ⟨"d", "p", .empty⟩ behaviour
    [change, change] (some 1) (by decide) hcalls
  obtain ⟨p, hp, hc⟩ := hgoes (start (some 1)) Steps.refl
  obtain ⟨_, _, _, _, heach⟩ := hdone p hp hc
  have h0 := heach 0 change rfl
  have h1 := heach 1 change rfl
  rw [if_pos (by decide)] at h0 h1
  exact ⟨hcalls, p, hp, hc, h0.2.1.trans rfl, h1.2.1.trans rfl⟩

end Pool

end Supervisor

end VolumeSync
