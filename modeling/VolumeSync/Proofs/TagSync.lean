import Mathlib.Data.List.Infix
import VolumeSync.Proofs.LiveHistory
import VolumeSync.Proofs.Supervision

-- The laws of the tags over a whole run, from the reports of the watch to
-- the calls. A volume's tags are sent when it is shown as bound right
-- after it was shown as something else, once, and at no other time.

namespace VolumeSync

open Supervisor

/-! ## Steps that bind -/

/-- The step of this number shows a volume of the site as bound, and the
volume was shown last as something else and not deleted since. -/
structure BindsAt (site : Site) (steps : List WatchStep) (i : Nat) (pv : PersistentVolume) :
    Prop where
  shown : steps[i]?.bind WatchStep.shown? = some pv
  bound : pv.snapshot.phase = .bound
  ours : pv.snapshot.driver = some site.provisioner
  unbound : ∃ last, LastShown (steps.take i) pv.key last ∧ last.snapshot.phase ≠ .bound

/-- The number of the session that the task of a step asks for: so many
tasks of earlier steps have asked for one. -/
def sessionAt (site : Site) (steps : List WatchStep) (i : Nat) : Nat :=
  (admitted site (SnapshotCache.fresh.changes (steps.take i))).countP Change.isMaterial

/-- The tag call of the task of a step that shows this volume. -/
def tagCallAt (site : Site) (steps : List WatchStep) (b : Nat × PersistentVolume) : Call :=
  ⟨sessionAt site steps b.1, .tags, site.describe b.2.snapshot⟩

/-- The task of the step gets a session, and its metadata call an answer. -/
def reachesTagsAt (site : Site) (script : Script) (steps : List WatchStep)
    (b : Nat × PersistentVolume) : Bool :=
  (script.play (sessionAt site steps b.1)).reachesTags

theorem BindsAt.lt_length {site : Site} {steps : List WatchStep} {i : Nat}
    {pv : PersistentVolume} (h : BindsAt site steps i pv) : i < steps.length := by
  rcases Nat.lt_or_ge i steps.length with hi | hi
  · exact hi
  · have hs := h.shown
    simp [List.getElem?_eq_none hi] at hs

/-- A later step changes nothing about an earlier one. -/
theorem bindsAt_snoc_of_lt {site : Site} {steps : List WatchStep} {i : Nat} (step : WatchStep)
    (pv : PersistentVolume) (hi : i < steps.length) :
    BindsAt site (steps ++ [step]) i pv ↔ BindsAt site steps i pv := by
  have h1 : (steps ++ [step])[i]? = steps[i]? := List.getElem?_append_left hi
  have h2 : (steps ++ [step]).take i = steps.take i :=
    List.take_append_of_le_length (Nat.le_of_lt hi)
  constructor
  · rintro ⟨hs, hb, ho, hu⟩
    exact ⟨by rw [← h1]; exact hs, hb, ho, by rw [← h2]; exact hu⟩
  · rintro ⟨hs, hb, ho, hu⟩
    exact ⟨by rw [h1]; exact hs, hb, ho, by rw [h2]; exact hu⟩

/-- The steps that bind are those that did before, and maybe the last. -/
theorem bindsAt_snoc (site : Site) (steps : List WatchStep) (step : WatchStep) (i : Nat)
    (pv : PersistentVolume) :
    BindsAt site (steps ++ [step]) i pv ↔ BindsAt site steps i pv ∨
      (i = steps.length ∧ BindsAt site (steps ++ [step]) steps.length pv) := by
  constructor
  · intro h
    have hl := h.lt_length
    rw [List.length_append, List.length_singleton] at hl
    rcases Nat.lt_or_ge i steps.length with hi | hi
    · exact Or.inl ((bindsAt_snoc_of_lt step pv hi).mp h)
    · have hi' : i = steps.length := by omega
      subst hi'
      exact Or.inr ⟨rfl, h⟩
  · rintro (h | ⟨rfl, h⟩)
    · exact (bindsAt_snoc_of_lt step pv h.lt_length).mpr h
    · exact h

theorem sessionAt_snoc_of_le (site : Site) {steps : List WatchStep} {i : Nat} (step : WatchStep)
    (hi : i ≤ steps.length) : sessionAt site (steps ++ [step]) i = sessionAt site steps i := by
  unfold sessionAt
  rw [List.take_append_of_le_length hi]

/-- A step binds if and only if it gives an admitted change that is a
first bind. -/
theorem bindsAt_snoc_self (site : Site) (steps : List WatchStep) (step : WatchStep)
    (pv : PersistentVolume) :
    BindsAt site (steps ++ [step]) steps.length pv ↔
      ∃ change, ((SnapshotCache.fresh.after steps).observe step).2 = some change ∧
        step.shown? = some pv ∧ change.new = pv.snapshot ∧
        Snapshot.comesFrom site.provisioner (some change.new) = true ∧
        change.isFirstBind = true := by
  have hget : (steps ++ [step])[steps.length]? = some step := List.getElem?_concat_length
  have htake : (steps ++ [step]).take steps.length = steps := List.take_left
  constructor
  · rintro ⟨hs, hb, ho, last, hlast, hu⟩
    rw [hget, Option.bind_some] at hs
    rw [htake] at hlast
    have hold : (SnapshotCache.fresh.after steps).lastSnapshot? pv = some last.snapshot :=
      (SnapshotCache.find?_after steps pv.key last.snapshot).mpr ⟨last, hlast, rfl⟩
    refine ⟨⟨some last.snapshot, pv.snapshot⟩, ?_, hs, rfl, (Snapshot.comesFrom_iff _ _).mpr ho,
      (Change.isFirstBind_iff _).mpr ⟨last.snapshot, rfl, hu, hb⟩⟩
    refine (SnapshotCache.observe_eq_some _ _ _).mpr ⟨pv, ?_, by rw [hold]⟩
    cases step with
    | apply q =>
      cases hs
      exact Or.inl rfl
    | initApply q =>
      cases hs
      exact Or.inr ⟨rfl, by rw [hold]; rfl⟩
    | init | initDone | delete q => cases hs
  · rintro ⟨change, hc, hs, hnew, hours, hfirst⟩
    obtain ⟨q, hq, rfl⟩ := (SnapshotCache.observe_eq_some _ _ _).mp hc
    have hpq : q = pv := by
      rcases hq with rfl | ⟨rfl, _⟩ <;> exact Option.some.inj hs
    subst hpq
    obtain ⟨old, hold, hu, hb⟩ := (Change.isFirstBind_iff _).mp hfirst
    obtain ⟨last, hlast, rfl⟩ := (SnapshotCache.find?_after steps q.key old).mp hold
    exact ⟨by rw [hget]; exact hs, hb, (Snapshot.comesFrom_iff _ _).mp hours, last,
      by rwa [htake], hu⟩

/-- More reports ask for no fewer sessions. -/
theorem sessionAt_mono (site : Site) (steps : List WatchStep) {i j : Nat} (hij : i ≤ j) :
    sessionAt site steps i ≤ sessionAt site steps j := by
  obtain ⟨more, hmore⟩ := List.take_prefix_take_left (l := steps) hij
  unfold sessionAt
  rw [← hmore, SnapshotCache.changes_append, admitted_append, List.countP_append]
  exact Nat.le_add_right _ _

/-- The task of a step that binds asks for a session of its own. -/
theorem sessionAt_lt {site : Site} {steps : List WatchStep} {i j : Nat} {pv : PersistentVolume}
    (h : BindsAt site steps i pv) (hij : i < j) :
    sessionAt site steps i < sessionAt site steps j := by
  have hi := h.lt_length
  have htake : steps.take (i + 1) = steps.take i ++ [steps[i]] :=
    List.take_succ_eq_append_getElem hi
  have hlen : (steps.take i).length = i := List.length_take_of_le (Nat.le_of_lt hi)
  have hself : BindsAt site (steps.take i ++ [steps[i]]) (steps.take i).length pv := by
    rw [← htake, hlen]
    refine ⟨?_, h.bound, h.ours, ?_⟩
    · rw [List.getElem?_take_of_lt (Nat.lt_succ_self i)]
      exact h.shown
    · rw [List.take_take, Nat.min_eq_left (Nat.le_succ i)]
      exact h.unbound
  obtain ⟨change, hc, _, _, hours, hfirst⟩ := (bindsAt_snoc_self site _ _ pv).mp hself
  refine Nat.lt_of_lt_of_le ?_ (sessionAt_mono site steps (Nat.succ_le_of_lt hij))
  unfold sessionAt
  rw [Nat.succ_eq_add_one, htake, SnapshotCache.changes_snoc, hc, admitted_append,
    List.countP_append]
  simp [admitted, hours, Change.isMaterial_of_isFirstBind hfirst]

/-- What was shown last was shown by an earlier step. -/
theorem LastShown.exists_getElem? {steps : List WatchStep} {i : Nat} {key : String}
    {last : PersistentVolume} (h : LastShown (steps.take i) key last) :
    ∃ j, j < i ∧ steps[j]?.bind WatchStep.shown? = some last ∧ last.key = key := by
  obtain ⟨before, step, later, hsplit, ⟨hs, hk⟩, _⟩ := h
  have hget : (steps.take i)[before.length]? = some step := by
    rw [hsplit, List.getElem?_append_right (Nat.le_refl _), Nat.sub_self]
    rfl
  have hlt : before.length < i := by
    rcases Nat.lt_or_ge before.length i with hlt | hge
    · exact hlt
    · rw [List.getElem?_take_eq_none hge] at hget
      cases hget
  rw [List.getElem?_take_of_lt hlt] at hget
  exact ⟨before.length, hlt, by rw [hget]; exact hs, hk⟩

/-! ## The tag calls of all tasks -/

/-- What one more report adds to the tasks: the task of its change, if it
gives one that is admitted. -/
theorem tasks_changes_snoc (site : Site) (script : Script) (steps : List WatchStep)
    (step : WatchStep) :
    tasks site script 0 (admitted site (SnapshotCache.fresh.changes (steps ++ [step]))) =
      tasks site script 0 (admitted site (SnapshotCache.fresh.changes steps)) ++
        tasks site script (sessionAt site (steps ++ [step]) steps.length)
          (admitted site ((SnapshotCache.fresh.after steps).observe step).2.toList) := by
  rw [SnapshotCache.changes_snoc, admitted_append, tasks_append, Nat.zero_add, sessionAt,
    List.take_left]

/-- The tag calls of the task of one report. -/
theorem tagCalls_of_report (site : Site) (script : Script) (session : Nat)
    (change : Option Change) :
    (tasks site script session (admitted site change.toList)).flatMap (·.trace.tagCalls) =
      match change with
      | none => []
      | some change =>
        if Snapshot.comesFrom site.provisioner (some change.new) && change.isFirstBind &&
          (script.play session).reachesTags then [⟨session, .tags, site.describe change.new⟩]
        else [] := by
  rcases change with _ | change
  · rfl
  · rcases hc : Snapshot.comesFrom site.provisioner (some change.new) with _ | _
    · simp [admitted, tasks, hc]
    · simp [admitted, tasks, hc, Reconcile.tagCalls_run]

/-- A report that does not bind adds no tag call. -/
theorem no_tagCalls_of_not_bindsAt {site : Site} {steps : List WatchStep} {step : WatchStep}
    (script : Script) (session : Nat)
    (h : ¬ ∃ pv, BindsAt site (steps ++ [step]) steps.length pv) :
    (tasks site script session
      (admitted site ((SnapshotCache.fresh.after steps).observe step).2.toList)).flatMap
        (·.trace.tagCalls) = [] := by
  rw [tagCalls_of_report]
  rcases hc : ((SnapshotCache.fresh.after steps).observe step).2 with _ | change
  · rfl
  · refine if_neg fun hall => h ?_
    simp only [Bool.and_eq_true] at hall
    obtain ⟨pv, hpv, hchange⟩ := (SnapshotCache.observe_eq_some _ _ _).mp hc
    refine ⟨pv, (bindsAt_snoc_self site steps step pv).mpr
      ⟨change, hc, ?_, by rw [hchange], hall.1.1, hall.1.2⟩⟩
    rcases hpv with rfl | ⟨rfl, _⟩ <;> rfl

/-- A report that binds adds the tag call of its step, if the provider
lets it come that far. -/
theorem tagCalls_of_bindsAt {site : Site} {steps : List WatchStep} {step : WatchStep}
    {pv : PersistentVolume} (script : Script) (session : Nat)
    (h : BindsAt site (steps ++ [step]) steps.length pv) :
    (tasks site script session
      (admitted site ((SnapshotCache.fresh.after steps).observe step).2.toList)).flatMap
        (·.trace.tagCalls) =
      if (script.play session).reachesTags then [⟨session, .tags, site.describe pv.snapshot⟩]
      else [] := by
  obtain ⟨change, hc, _, hnew, hours, hfirst⟩ := (bindsAt_snoc_self site steps step pv).mp h
  rw [tagCalls_of_report, hc]
  simp only [hours, hfirst, Bool.true_and, ← hnew]

/-- The calls of earlier steps stay as they are. -/
theorem tagCallAt_snoc {site : Site} {steps : List WatchStep} (step : WatchStep)
    {binds : List (Nat × PersistentVolume)} (hlt : ∀ b ∈ binds, b.1 < steps.length)
    (script : Script) :
    (binds.filter (reachesTagsAt site script (steps ++ [step]))).map
        (tagCallAt site (steps ++ [step])) =
      (binds.filter (reachesTagsAt site script steps)).map (tagCallAt site steps) := by
  have hsession : ∀ b ∈ binds,
      sessionAt site (steps ++ [step]) b.1 = sessionAt site steps b.1 := fun b hb =>
    sessionAt_snoc_of_le site step (Nat.le_of_lt (hlt b hb))
  have hfilter : binds.filter (reachesTagsAt site script (steps ++ [step])) =
      binds.filter (reachesTagsAt site script steps) := by
    refine List.filter_congr fun b hb => ?_
    unfold reachesTagsAt
    rw [hsession b hb]
  rw [hfilter]
  refine List.map_congr_left fun b hb => ?_
  unfold tagCallAt
  rw [hsession b (List.mem_filter.mp hb).1]

/-- The steps that bind, in order, and the tag calls of all tasks as the
calls of these steps. -/
theorem exists_binds (site : Site) (steps : List WatchStep) :
    ∃ binds : List (Nat × PersistentVolume),
      binds.Pairwise (fun a b => a.1 < b.1) ∧
      (∀ i pv, (i, pv) ∈ binds ↔ BindsAt site steps i pv) ∧
      ∀ script, (tasks site script 0 (admitted site (SnapshotCache.fresh.changes steps))).flatMap
          (·.trace.tagCalls) =
        (binds.filter (reachesTagsAt site script steps)).map (tagCallAt site steps) := by
  induction steps using List.reverseRecOn with
  | nil =>
    refine ⟨[], List.Pairwise.nil, fun i pv => ?_, fun script => rfl⟩
    simp only [List.not_mem_nil, false_iff]
    intro h
    exact absurd h.lt_length (Nat.not_lt_zero i)
  | append_singleton steps step ih =>
    obtain ⟨binds, hasc, hmem, hcalls⟩ := ih
    have hlt : ∀ b ∈ binds, b.1 < steps.length := fun b hb => ((hmem b.1 b.2).mp hb).lt_length
    -- If the new step binds, its call comes behind those of the earlier steps.
    by_cases hbind : ∃ pv, BindsAt site (steps ++ [step]) steps.length pv
    · obtain ⟨pv, hpv⟩ := hbind
      refine ⟨binds ++ [(steps.length, pv)], ?_, fun i q => ?_, fun script => ?_⟩
      · refine List.pairwise_append.mpr ⟨hasc, List.pairwise_singleton _ _, ?_⟩
        intro b hb c hc
        rw [List.mem_singleton.mp hc]
        exact hlt b hb
      · rw [List.mem_append, List.mem_singleton, Prod.mk.injEq, hmem, bindsAt_snoc]
        refine or_congr_right (and_congr_right fun _ => ?_)
        constructor
        · rintro rfl
          exact hpv
        · intro h
          exact Option.some.inj (h.shown.symm.trans hpv.shown)
      · rw [tasks_changes_snoc, List.flatMap_append, hcalls, tagCalls_of_bindsAt script _ hpv,
          List.filter_append, List.map_append, tagCallAt_snoc step hlt]
        congr 1
        by_cases hr : reachesTagsAt site script (steps ++ [step]) (steps.length, pv) = true
        · rw [List.filter_cons_of_pos hr]
          exact if_pos hr
        · rw [List.filter_cons_of_neg hr]
          exact if_neg hr
    · refine ⟨binds, hasc, fun i q => ?_, fun script => ?_⟩
      · rw [hmem, bindsAt_snoc]
        refine (or_iff_left ?_).symm
        rintro ⟨_, h⟩
        exact hbind ⟨q, h⟩
      · rw [tasks_changes_snoc, List.flatMap_append, hcalls,
          no_tagCalls_of_not_bindsAt script _ hbind, List.append_nil, tagCallAt_snoc step hlt]

/-! ## The law -/

/-- The tags of a volume are sent once each time it binds. There is a list
of the steps that bind, in order, each with a session number of its own,
and the tag calls are the calls of these steps: without a ceiling of all
whose task gets a session and an answer to its metadata call, and under a
ceiling of the first so many of these. Before a step that binds, the volume
was shown as something other than bound. -/
theorem tags_are_sent_once_per_bind (site : Site) (script : Script) (ceiling : Option Nat)
    (steps : List WatchStep) (endless : Bool) :
    ∃ binds : List (Nat × PersistentVolume),
      binds.Pairwise (fun a b => a.1 < b.1 ∧ sessionAt site steps a.1 < sessionAt site steps b.1) ∧
      (∀ i pv, (i, pv) ∈ binds ↔ BindsAt site steps i pv) ∧
      (∀ b ∈ binds, ∃ j pv, j < b.1 ∧ steps[j]?.bind WatchStep.shown? = some pv ∧
        pv.key = b.2.key ∧ pv.snapshot.phase ≠ .bound) ∧
      (∃ result, run site script none (SnapshotCache.fresh.changes steps) endless = .ok result ∧
        result.trace.tagCalls =
          (binds.filter (reachesTagsAt site script steps)).map (tagCallAt site steps)) ∧
      (∀ result, run site script ceiling (SnapshotCache.fresh.changes steps) endless = .ok result →
        result.trace.tagCalls <+:
          (binds.filter (reachesTagsAt site script steps)).map (tagCallAt site steps)) ∧
      (ceiling.getD 0 ≤ maxPermits →
        ∃ result, run site script ceiling (SnapshotCache.fresh.changes steps) endless =
          .ok result) := by
  obtain ⟨binds, hasc, hmem, hcalls⟩ := exists_binds site steps
  refine ⟨binds, ?_, hmem, ?_, ⟨_, run_eq_inTurn site script none _ endless (Nat.zero_le _), ?_⟩,
    ?_, fun hle => ⟨_, run_eq_inTurn site script ceiling _ endless hle⟩⟩
  · refine hasc.imp_of_mem fun {a b} ha _ hlt => ⟨hlt, ?_⟩
    exact sessionAt_lt ((hmem a.1 a.2).mp ha) hlt
  · intro b hb
    obtain ⟨last, hlast, hu⟩ := ((hmem b.1 b.2).mp hb).unbound
    obtain ⟨j, hj, hs, hk⟩ := hlast.exists_getElem?
    exact ⟨j, last, hj, hs, hk, hu⟩
  · simp only [inTurn, performed_none]
    rw [TaskRun.tagCalls_flatMap_watched, hcalls]
  · intro result hrun
    rw [run_eq_inTurn site script ceiling _ endless (le_of_run_ok hrun)] at hrun
    obtain rfl := Except.ok.inj hrun
    simp only [inTurn]
    rw [TaskRun.tagCalls_flatMap_watched, ← hcalls]
    exact (performed_isPrefix ceiling _).flatMap _

-- A volume that is bound at first sight, then released and bound again:
-- the third task alone sends tags.
example :
    let pv (phase : String) : PersistentVolume :=
      ⟨some "v", none, none, none, some phase, none, none, none, none, some ⟨"d", "h", .empty⟩⟩
    (run ⟨"d", "p", .empty⟩ [] none (SnapshotCache.fresh.changes
        [.apply (pv "Bound"), .apply (pv "Released"), .apply (pv "Bound")]) false).toOption.map
      (·.trace.tagCalls.map (·.session)) = some [2] := by
  decide +kernel

end VolumeSync
