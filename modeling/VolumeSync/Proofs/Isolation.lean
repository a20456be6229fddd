import VolumeSync.Proofs.Returning

-- Two runs that differ in how the provider behaves toward one session. The
-- tasks of all other sessions go the same way in both: they ask for the
-- same numbers, make the same calls and end the same.

namespace VolumeSync

/-! ## What belongs to a session -/

namespace Reconcile

/-- A task that has nothing to tell is seen to do nothing. -/
theorem run_of_not_material (site : Site) {change : Change} (n : Nat) (b : Behaviour)
    (h : change.isMaterial = false) : run site change n b = ⟨[], .finished .skipped⟩ := by
  unfold run
  rw [h]
  rfl

/-- All calls of a task are of the session that it asked for. -/
theorem requests_of_mem_calls (site : Site) (change : Change) (n : Nat) (b : Behaviour)
    {call : Call} (h : call ∈ (run site change n b).trace.calls) :
    (run site change n b).trace.requests = [call.session] := by
  rcases hm : change.isMaterial with _ | _
  · rw [run_of_not_material site n b hm] at h
    cases h
  · have hsession : call.session = n := by
      obtain ⟨effect, heffect, hcall⟩ := List.mem_filterMap.mp h
      have hrun := congrArg TaskRun.trace (renumbered_run site change n n b)
      rw [← hrun] at heffect
      obtain ⟨first, _, rfl⟩ := List.mem_map.mp heffect
      cases first with
      | called c =>
        cases hcall
        rfl
      | requested session => cases hcall
      | notified notice => cases hcall
      | logged line => cases hcall
    rw [requests_run, hm, hsession]
    rfl

end Reconcile

namespace Script

theorem hangs_play {script : Script} (h : ∀ b ∈ script, b.hangs = false) (session : Nat) :
    (script.play session).hangs = false := by
  unfold play
  rw [List.getD_eq_getElem?_getD]
  rcases hget : script[session]? with _ | b
  · rfl
  · exact h b (List.mem_of_getElem? hget)

end Script

/-- Where no call hangs, no task comes to one that does. -/
theorem Reconcile.playsHang_eq_false (change : Change) {b : Behaviour} (h : b.hangs = false) :
    playsHang change b = false := by
  unfold Behaviour.hangs at h
  simp only [Bool.or_eq_false_iff] at h
  simp [playsHang, plays, h]

namespace Supervisor

/-- The task of the change with this number asks for this session. -/
def AsksFor (changes : List Change) (i session : Nat) : Prop :=
  ∃ change, changes[i]? = some change ∧ change.isMaterial = true ∧
    (changes.take i).countP Change.isMaterial = session

/-- The tasks of the other sessions, and those that ask for none. -/
def others (session : Nat) (runs : List TaskRun) : List TaskRun :=
  runs.filter fun r => decide (session ∉ r.trace.requests)

variable {script other : Script} {j : Nat}

/-- The sessions are numbered in the order of the tasks, whatever becomes of
them. -/
theorem requests_tasks (site : Site) (script : Script) (n : Nat) (changes : List Change) :
    Trace.requests ((tasks site script n changes).flatMap TaskRun.watched) =
      List.range' n (changes.countP Change.isMaterial) := by
  induction changes generalizing n with
  | nil => rfl
  | cons change rest ih =>
    rw [tasks, List.flatMap_cons, Trace.requests_append, TaskRun.requests_watched,
      Reconcile.requests_run, ih, List.countP_cons]
    by_cases hm : change.isMaterial = true
    · simp [hm, List.range'_succ]
    · simp [hm]

/-- The calls that are not of the session are those of the other tasks. -/
theorem calls_others {runs : List TaskRun}
    (h : ∀ r ∈ runs, ∀ call ∈ r.trace.calls, r.trace.requests = [call.session]) :
    (Trace.calls (runs.flatMap TaskRun.watched)).filter (fun call => decide (call.session ≠ j)) =
      (others j runs).flatMap (·.trace.calls) := by
  induction runs with
  | nil => rfl
  | cons r rest ih =>
    unfold others at ih ⊢
    rw [List.flatMap_cons, Trace.calls_append, List.filter_append, TaskRun.calls_watched,
      ih fun x hx => h x (List.mem_cons_of_mem _ hx), List.filter_cons]
    by_cases hj : j ∈ r.trace.requests
    · have hnone : r.trace.calls.filter (fun call => decide (call.session ≠ j)) = [] := by
        refine List.filter_eq_nil_iff.mpr fun call hcall => ?_
        rw [h r List.mem_cons_self call hcall, List.mem_singleton] at hj
        simp [hj]
      rw [hnone, if_neg (by simpa using hj), List.nil_append]
    · have hall : r.trace.calls.filter (fun call => decide (call.session ≠ j)) =
          r.trace.calls := by
        refine List.filter_eq_self.mpr fun call hcall => ?_
        rw [h r List.mem_cons_self call hcall, List.mem_singleton] at hj
        simp [Ne.symm hj]
      rw [hall, if_pos (by simpa using hj), List.flatMap_cons]

theorem requests_of_mem_tasks {site : Site} {n : Nat} {changes : List Change} {r : TaskRun}
    (h : r ∈ tasks site script n changes) :
    ∀ call ∈ r.trace.calls, r.trace.requests = [call.session] := by
  induction changes generalizing n with
  | nil => cases h
  | cons change rest ih =>
    rcases List.mem_cons.mp h with rfl | h
    · intro call hcall
      exact Reconcile.requests_of_mem_calls site change n _ hcall
    · exact ih h

/-! ## Scripts that differ in one entry -/

/-- A task that does not ask for the session goes the same way. -/
theorem getElem?_tasks_congr (site : Site) (h : ∀ k, k ≠ j → script.play k = other.play k)
    (changes : List Change) {i : Nat} (hi : ¬ AsksFor changes i j) :
    (tasks site script 0 changes)[i]? = (tasks site other 0 changes)[i]? := by
  rw [getElem?_tasks, getElem?_tasks]
  rcases hc : changes[i]? with _ | change
  · rfl
  · rcases hm : change.isMaterial with _ | _
    · simp only [Option.map_some, Reconcile.run_of_not_material site _ _ hm]
    · have hne : 0 + (changes.take i).countP Change.isMaterial ≠ j := by
        rw [Nat.zero_add]
        exact fun heq => hi ⟨change, hc, hm, heq⟩
      simp only [Option.map_some, h _ hne]

/-- A report that does not hang on the session is the same. -/
theorem reports_congr (site : Site) (h : ∀ k, k ≠ j → script.play k = other.play k)
    (changes : List Change) {reports reports' : List TaskReport}
    (hreports : (tasks site script 0 changes).map TaskRun.report? = reports.map some)
    (hreports' : (tasks site other 0 changes).map TaskRun.report? = reports'.map some)
    {i : Nat} (hi : ¬ AsksFor changes i j) : reports[i]? = reports'[i]? := by
  have hsame := congrArg (Option.map TaskRun.report?) (getElem?_tasks_congr site h changes hi)
  rw [← List.getElem?_map, ← List.getElem?_map, hreports, hreports', List.getElem?_map,
    List.getElem?_map] at hsame
  exact Option.map_injective (fun _ _ h => Option.some.inj h) hsame

theorem others_congr (site : Site) (h : ∀ k, k ≠ j → script.play k = other.play k) (n : Nat)
    (changes : List Change) :
    others j (tasks site script n changes) = others j (tasks site other n changes) := by
  induction changes generalizing n with
  | nil => rfl
  | cons change rest ih =>
    unfold others at ih ⊢
    rw [tasks, tasks, List.filter_cons, List.filter_cons, ih, Reconcile.requests_run,
      Reconcile.requests_run]
    rcases hm : change.isMaterial with _ | _
    · rw [Reconcile.run_of_not_material site n _ hm, Reconcile.run_of_not_material site n _ hm]
    · by_cases hn : n = j
      · simp [hn]
      · rw [h n hn]

/-- Where no call hangs, no task does. -/
theorem countP_hangs_tasks (site : Site) (changes : List Change)
    (h : ∀ b ∈ script, b.hangs = false) :
    (tasks site script 0 changes).countP TaskRun.hangs = 0 := by
  rw [countP_tasks site script changes _ _ (hangs_run site), List.countP_eq_zero]
  intro x hx
  unfold meetings at hx
  obtain ⟨i, hi, rfl⟩ := List.mem_mapIdx.mp hx
  rw [Reconcile.playsHang_eq_false _ (Script.hangs_play h _)]
  exact Bool.false_ne_true

/-- A run in which no task is held up by another: there is no ceiling, or one
of at least one permit and no call that hangs. -/
theorem performed_tasks_eq_self (site : Site) {ceiling : Option Nat} (changes : List Change)
    (h : ceiling = none ∨
      (∃ permits, ceiling = some permits ∧ 1 ≤ permits) ∧ ∀ b ∈ script, b.hangs = false) :
    performed ceiling (tasks site script 0 changes) = tasks site script 0 changes := by
  rcases h with rfl | ⟨⟨permits, rfl, hone⟩, hscript⟩
  · rfl
  · apply performed_eq_self_of_no_hang
    · intro hzero
      cases hzero
      omega
    · exact countP_hangs_tasks site changes hscript

/-- A run in which every task gets to run shows all of them in turn. -/
theorem trace_inTurn {site : Site} {ceiling : Option Nat} {events : List Change}
    (endless : Bool) (h : performed ceiling (tasks site script 0 (admitted site events)) =
      tasks site script 0 (admitted site events)) :
    (inTurn site script ceiling events endless).trace =
      (tasks site script 0 (admitted site events)).flatMap TaskRun.watched := by
  unfold inTurn
  exact congrArg (·.flatMap TaskRun.watched) h

/-! ## The law -/

/-- What the provider does to one session, be it an error, a panic, no
session at all or a call that hangs, stays with the task of that session.
Take two scripts that differ in the entry of session `j` alone, and no
ceiling, or one of at least one permit and no call that hangs in either
script. Then both runs ask for the same sessions and make the same calls of
the sessions other than `j`, the tasks of these are seen to do the same and
end the same, the same changes are filtered out and dispatched, and if both
runs come to their end they have counted as many tasks, with the same report
of every task that does not ask for session `j`. -/
theorem a_fault_stays_with_its_session (site : Site) (script other : Script) (j : Nat)
    (events : List Change) (ceiling : Option Nat) (endless : Bool)
    (hothers : ∀ k, k ≠ j → script.play k = other.play k)
    (hceiling : ceiling = none ∨
      (∃ permits, ceiling = some permits ∧ 1 ≤ permits) ∧
        (∀ b ∈ script, b.hangs = false) ∧ ∀ b ∈ other, b.hangs = false) :
    let changes := admitted site events
    let runs := tasks site script 0 changes
    let runs' := tasks site other 0 changes
    let counted (script : Script) := ((State.start ceiling events).atRest site script).summary
    (maxPermits < ceiling.getD 0 →
      run site script ceiling events endless = .error {} ∧
        run site other ceiling events endless = .error {}) ∧
    (ceiling.getD 0 ≤ maxPermits → ∃ result result',
      run site script ceiling events endless = .ok result ∧
      run site other ceiling events endless = .ok result' ∧
      result.trace = runs.flatMap TaskRun.watched ∧
      result'.trace = runs'.flatMap TaskRun.watched ∧
      result.trace.requests = result'.trace.requests ∧
      result.trace.calls.filter (fun call => decide (call.session ≠ j)) =
        result'.trace.calls.filter (fun call => decide (call.session ≠ j)) ∧
      others j runs = others j runs' ∧
      (counted script).filteredOut = (counted other).filteredOut ∧
      (counted script).dispatched = (counted other).dispatched ∧
      ∀ s s', result.summary = some s → result'.summary = some s' →
        s.filteredOut = s'.filteredOut ∧ s.dispatched = s'.dispatched ∧
        s.completed + s.failed + s.panicked = s'.completed + s'.failed + s'.panicked ∧
        ∃ reports reports', runs.map TaskRun.report? = reports.map some ∧
          runs'.map TaskRun.report? = reports'.map some ∧ s.Counts reports ∧
          s'.Counts reports' ∧ ∀ i, ¬ AsksFor changes i j → reports[i]? = reports'[i]?) := by
  intro changes runs runs' counted
  have hall : performed ceiling runs = runs :=
    performed_tasks_eq_self site changes (hceiling.imp_right fun h => ⟨h.1, h.2.1⟩)
  have hall' : performed ceiling runs' = runs' :=
    performed_tasks_eq_self site changes (hceiling.imp_right fun h => ⟨h.1, h.2.2⟩)
  have htrace := trace_inTurn endless hall
  have htrace' := trace_inTurn endless hall'
  refine ⟨?_, ?_⟩
  · intro hgt
    unfold run
    rw [if_neg (by omega), if_neg (by omega)]
    exact ⟨rfl, rfl⟩
  · intro hle
    refine ⟨_, _, run_eq_inTurn site script ceiling events endless hle,
      run_eq_inTurn site other ceiling events endless hle, htrace, htrace', ?_, ?_,
      others_congr site hothers 0 changes, ?_, ?_, ?_⟩
    · rw [htrace, htrace', requests_tasks, requests_tasks]
    · rw [htrace, htrace', calls_others fun r => requests_of_mem_tasks,
        calls_others fun r => requests_of_mem_tasks, others_congr site hothers 0 changes]
    · exact (counted_atRest site script ceiling events).1.trans
        (counted_atRest site other ceiling events).1.symm
    · exact (counted_atRest site script ceiling events).2.trans
        (counted_atRest site other ceiling events).2.symm
    · intro s s' hs hs'
      obtain ⟨hhung, hout, hdispatched, hcounts⟩ := inTurn_summary hs
      obtain ⟨hhung', hout', hdispatched', hcounts'⟩ := inTurn_summary hs'
      have hreports := TaskRun.map_report? hhung
      have hreports' := TaskRun.map_report? hhung'
      have hlen := congrArg List.length hreports
      have hlen' := congrArg List.length hreports'
      simp only [List.length_map, length_tasks] at hlen hlen'
      refine ⟨hout.trans hout'.symm, hdispatched.trans hdispatched'.symm, ?_, _, _, hreports,
        hreports', hcounts, hcounts', ?_⟩
      · rw [hcounts.sum, hcounts'.sum, ← hlen, hlen']
      · intro i hi
        exact reports_congr site hothers changes hreports hreports' hi

/-- The metadata call of the first of two tasks hangs in the one run and
succeeds in the other: the second task makes its call in both. -/
theorem a_hung_call_stays_with_its_session :
    let change : Change := ⟨none, { Snapshot.blank with driver := some "d", name := "v" }⟩
    let site : Site := ⟨"d", "p", .empty⟩
    let hanging : Script := [⟨.granted, .hang, .succeed⟩]
    (∀ k, k ≠ 0 → hanging.play k = Script.play [] k) ∧
    ∃ result result', run site hanging none [change, change] false = .ok result ∧
      run site [] none [change, change] false = .ok result' ∧
      result.summary = none ∧ result'.summary = some ⟨0, 2, 2, 0, 0⟩ ∧
      result.trace.calls.filter (fun call => decide (call.session ≠ 0)) =
        [⟨1, .metadata, site.describe change.new⟩] ∧
      result'.trace.calls.filter (fun call => decide (call.session ≠ 0)) =
        [⟨1, .metadata, site.describe change.new⟩] := by
  intro change site hanging
  have hothers : ∀ k, k ≠ 0 → hanging.play k = Script.play [] k := by
    intro k hk
    rcases k with _ | k
    · exact absurd rfl hk
    · rfl
  obtain ⟨_, hruns⟩ := a_fault_stays_with_its_session site hanging [] 0 [change, change] none false
    hothers (Or.inl rfl)
  obtain ⟨result, result', hrun, hrun', _, htrace', _, hcalls, _⟩ := hruns (Nat.zero_le _)
  have hcalls' : result'.trace.calls.filter (fun call => decide (call.session ≠ 0)) =
      [⟨1, .metadata, site.describe change.new⟩] := by
    rw [htrace']
    decide
  refine ⟨hothers, result, result', hrun, hrun', ?_, ?_, hcalls.trans hcalls', hcalls'⟩
  · obtain rfl := Except.ok.inj hrun
    decide
  · obtain rfl := Except.ok.inj hrun'
    decide

end Supervisor

end VolumeSync
