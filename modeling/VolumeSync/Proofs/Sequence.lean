import VolumeSync.Proofs.TaskTrace

-- The supervisor against a plain list of tasks. The admitted changes get
-- their tasks one after the other, each with the next free session number
-- if it asks for a session, and a ceiling only cuts this list off behind
-- the task that takes the last permit with it by hanging.

namespace VolumeSync

/-! ## Tasks one after the other -/

/-- The supervisor's own line about the end of a task. -/
def Ending.line? : Ending → Option LogLine
  | .finished _ => none
  | .sessionFailed f => some (.noSession f)
  | .panicked payload => some (.recovered payload)
  | .hung => none

namespace TaskRun

/-- What is seen of the task, and what the supervisor says of its end. -/
def watched (r : TaskRun) : Trace := r.trace ++ r.ending.line?.toList.map Effect.logged

/-- The task never ends. -/
def hangs (r : TaskRun) : Bool := r.ending == .hung

/-- How the task is counted. -/
def report? (r : TaskRun) : Option TaskReport := r.ending.report?.map (·.1)

@[simp] theorem requests_watched (r : TaskRun) : r.watched.requests = r.trace.requests := by
  unfold watched
  rw [Trace.requests_append]
  rcases r.ending.line? <;> simp [Trace.requests, Effect.request?]

/-- The supervisor itself calls nobody. -/
@[simp] theorem calls_watched (r : TaskRun) : r.watched.calls = r.trace.calls := by
  unfold watched
  rw [Trace.calls_append]
  rcases r.ending.line? <;> simp [Trace.calls, Effect.call?]

@[simp] theorem tagCalls_watched (r : TaskRun) : r.watched.tagCalls = r.trace.tagCalls := by
  unfold Trace.tagCalls
  rw [calls_watched]

theorem calls_flatMap_watched (runs : List TaskRun) :
    Trace.calls (runs.flatMap watched) = runs.flatMap (·.trace.calls) := by
  induction runs with
  | nil => rfl
  | cons r rest ih =>
    rw [List.flatMap_cons, Trace.calls_append, calls_watched, ih, List.flatMap_cons]

theorem tagCalls_flatMap_watched (runs : List TaskRun) :
    Trace.tagCalls (runs.flatMap watched) = runs.flatMap (·.trace.tagCalls) := by
  rw [Trace.tagCalls_flatMap]
  simp only [tagCalls_watched]

end TaskRun

theorem Snapshot.comesFrom_iff (provisioner : String) (s : Snapshot) :
    comesFrom provisioner (some s) = true ↔ s.driver = some provisioner := by
  simp [comesFrom]

/-- The reports on tasks in turn. -/
theorem TaskRun.reports_cons (r : TaskRun) (runs : List TaskRun) :
    (r :: runs).filterMap TaskRun.report? =
      r.report?.toList ++ runs.filterMap TaskRun.report? := by
  rw [List.filterMap_cons]
  rcases r.report? with _ | report
  · rfl
  · rfl

/-- A task takes one session number if its change is material. -/
theorem Reconcile.length_requests_watched (site : Site) (change : Change) (n : Nat)
    (b : Behaviour) (t : Trace) :
    (t ++ (run site change n b).watched).requests.length =
      if change.isMaterial then t.requests.length + 1 else t.requests.length := by
  rw [Trace.requests_append, TaskRun.requests_watched, requests_run, List.length_append]
  split
  · rfl
  · rfl

namespace Supervisor

/-- The changes that get a task. -/
def admitted (site : Site) (events : List Change) : List Change :=
  events.filter fun change => Snapshot.comesFrom site.provisioner (some change.new)

/-- The number of changes that get none. -/
def foreign (site : Site) (events : List Change) : Nat :=
  events.countP fun change => !Snapshot.comesFrom site.provisioner (some change.new)

/-- The tasks of the changes, one after the other, from a session number
on. A task whose change is not material asks for no session and leaves
the number to the next. -/
def tasks (site : Site) (script : Script) : Nat → List Change → List TaskRun
  | _, [] => []
  | session, change :: rest =>
    Reconcile.run site change session (script.play session) ::
      tasks site script (if change.isMaterial then session + 1 else session) rest

/-- The tasks up to the one that hangs as the last of so many, and with it. -/
def untilHung : Nat → List TaskRun → List TaskRun
  | 0, _ => []
  | _ + 1, [] => []
  | permits + 1, r :: rest => r :: untilHung (if r.hangs then permits else permits + 1) rest

/-- The tasks that get to run under a ceiling. -/
def performed : Option Nat → List TaskRun → List TaskRun
  | none, runs => runs
  | some permits, runs => untilHung permits runs

/-- What the tasks in turn leave: the concatenation of what is seen of
those that get to run, and the numbers if all of them run and none hangs. -/
def inTurn (site : Site) (script : Script) (ceiling : Option Nat) (events : List Change)
    (endless : Bool) : Result :=
  let runs := tasks site script 0 (admitted site events)
  let done := performed ceiling runs
  let counted : Summary := ⟨foreign site events, (admitted site events).length, 0, 0, 0⟩
  ⟨done.flatMap TaskRun.watched,
    if done.length = runs.length ∧ done.countP TaskRun.hangs = 0 ∧ endless = false then
      some ((done.filterMap TaskRun.report?).foldl Summary.record counted)
    else none⟩

theorem admitted_append (site : Site) (xs ys : List Change) :
    admitted site (xs ++ ys) = admitted site xs ++ admitted site ys := List.filter_append ..

theorem foreign_append (site : Site) (xs ys : List Change) :
    foreign site (xs ++ ys) = foreign site xs + foreign site ys := List.countP_append

@[simp] theorem length_tasks (site : Site) (script : Script) (session : Nat)
    (changes : List Change) : (tasks site script session changes).length = changes.length := by
  induction changes generalizing session with
  | nil => rfl
  | cons change rest ih => simp [tasks, ih]

/-- The task of a change asks, if it has to, for the session that is
numbered by the material changes before it. -/
theorem getElem?_tasks (site : Site) (script : Script) (session i : Nat) (changes : List Change) :
    (tasks site script session changes)[i]? = changes[i]?.map fun change =>
      let number := session + (changes.take i).countP Change.isMaterial
      Reconcile.run site change number (script.play number) := by
  induction changes generalizing session i with
  | nil => rfl
  | cons change rest ih =>
    rcases i with _ | i
    · rfl
    · simp only [tasks, List.getElem?_cons_succ, ih, List.take_succ_cons, List.countP_cons]
      congr 1
      funext c
      have hn : (if change.isMaterial then session + 1 else session) +
          (rest.take i).countP Change.isMaterial =
          session + ((rest.take i).countP Change.isMaterial +
            if change.isMaterial then 1 else 0) := by
        split <;> omega
      rw [hn]

/-- The tasks of two lists of changes follow each other. -/
theorem tasks_append (site : Site) (script : Script) (session : Nat) (xs ys : List Change) :
    tasks site script session (xs ++ ys) = tasks site script session xs ++
      tasks site script (session + xs.countP Change.isMaterial) ys := by
  induction xs generalizing session with
  | nil => rfl
  | cons change rest ih =>
    simp only [List.cons_append, tasks, ih, List.countP_cons]
    have hn : (if change.isMaterial then session + 1 else session) +
        rest.countP Change.isMaterial =
        session + (rest.countP Change.isMaterial + if change.isMaterial then 1 else 0) := by
      split <;> omega
    rw [hn]

/-! ## The cut -/

@[simp] theorem performed_nil (ceiling : Option Nat) : performed ceiling [] = [] := by
  rcases ceiling with _ | _ | permits <;> rfl

@[simp] theorem performed_none (runs : List TaskRun) : performed none runs = runs := rfl

/-- Without a permit nothing runs. -/
@[simp] theorem performed_zero (runs : List TaskRun) : performed (some 0) runs = [] := by
  cases runs <;> rfl

/-- Where a task may run, a permit can be taken. -/
theorem exists_map_succ {free : Option Nat} (h : free ≠ some 0) :
    ∃ left : Option Nat, free = left.map (· + 1) := by
  rcases free with _ | _ | permits
  · exact ⟨none, rfl⟩
  · exact absurd rfl h
  · exact ⟨some permits, rfl⟩

/-- A task that runs keeps its permit only if it hangs. -/
theorem performed_cons (free : Option Nat) (r : TaskRun) (runs : List TaskRun) :
    performed (free.map (· + 1)) (r :: runs) =
      r :: performed (if r.hangs then free else free.map (· + 1)) runs := by
  rcases free with _ | permits
  · simp [performed]
  · simp only [Option.map_some, performed, untilHung]
    split <;> rfl

/-- While fewer tasks hang than there are permits, all tasks run. -/
theorem untilHung_eq_self {permits : Nat} {runs : List TaskRun}
    (h : runs.countP TaskRun.hangs < permits) : untilHung permits runs = runs := by
  induction runs generalizing permits with
  | nil => rcases permits with _ | permits <;> rfl
  | cons r rest ih =>
    rcases permits with _ | permits
    · omega
    · rw [List.countP_cons] at h
      unfold untilHung
      rcases hr : r.hangs with _ | _
      · simp only [hr, Bool.false_eq_true, if_false] at h ⊢
        rw [ih h]
      · simp only [hr, if_true] at h ⊢
        rw [ih (by omega)]

/-- The task that hangs with the last permit is the last that runs. -/
theorem untilHung_split (before after : List TaskRun) {r : TaskRun} (hr : r.hangs = true) :
    untilHung (before.countP TaskRun.hangs + 1) (before ++ r :: after) = before ++ [r] := by
  induction before with
  | nil => simp [untilHung, hr]
  | cons x before ih =>
    rw [List.countP_cons, List.cons_append]
    unfold untilHung
    rcases hx : x.hangs with _ | _
    · simp only [Bool.false_eq_true, if_false, Nat.add_zero, ih, List.cons_append]
    · simp only [if_true, ih, List.cons_append]

/-- A ceiling cuts off at the end only. -/
theorem untilHung_isPrefix (permits : Nat) (runs : List TaskRun) :
    untilHung permits runs <+: runs := by
  induction runs generalizing permits with
  | nil => rcases permits with _ | permits <;> exact List.nil_prefix
  | cons r rest ih =>
    rcases permits with _ | permits
    · exact List.nil_prefix
    · unfold untilHung
      exact List.cons_prefix_cons.mpr ⟨rfl, ih _⟩

theorem performed_isPrefix (ceiling : Option Nat) (runs : List TaskRun) :
    performed ceiling runs <+: runs := by
  rcases ceiling with _ | permits
  · exact List.prefix_refl runs
  · exact untilHung_isPrefix permits runs

end Supervisor

end VolumeSync
