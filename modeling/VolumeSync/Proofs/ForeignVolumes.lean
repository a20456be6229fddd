import Mathlib.Data.List.Count
import Mathlib.Data.Set.Insert
import VolumeSync.Proofs.Returning
import VolumeSync.Proofs.LiveHistory

-- Volumes of other drivers, from the reports of the watch to the numbers of
-- a run. The memory of one key does not hang on what is reported of others,
-- and a change that is filtered out takes neither a permit nor a session
-- number; so reports of volumes that are never of the watcher's own driver
-- show nowhere but in the number of changes that were filtered out.

namespace VolumeSync

/-! ## Reports of some keys -/

namespace WatchStep

/-- The key of the volume that the step is about. -/
def key? : WatchStep → Option String
  | .apply pv => some pv.key
  | .initApply pv => some pv.key
  | .delete pv => some pv.key
  | .init => none
  | .initDone => none

variable (keys : Set String) [DecidablePred (· ∈ keys)]

/-- The step is about a volume of one of the keys. -/
def concerns (step : WatchStep) : Bool := step.key?.any fun key => decide (key ∈ keys)

/-- The steps that are about no volume of the keys. -/
def without (steps : List WatchStep) : List WatchStep :=
  steps.filter fun step => !step.concerns keys

end WatchStep

namespace SnapshotCache

/-- The changes that the reports give, each with the report that gives it. -/
def given (c : SnapshotCache) : List WatchStep → List (WatchStep × Change)
  | [] => []
  | step :: steps =>
    let (next, change) := c.observe step
    (change.map fun change => (step, change)).toList ++ next.given steps

theorem map_snd_given (c : SnapshotCache) (steps : List WatchStep) :
    (c.given steps).map (·.2) = c.changes steps := by
  induction steps generalizing c with
  | nil => rfl
  | cons step rest ih =>
    unfold given changes
    simp only [List.map_append, ih]
    rcases (c.observe step).2 with _ | change
    · rfl
    · rfl

/-- What a report gives leads to the volume that the report shows. -/
theorem shown_of_mem_given {c : SnapshotCache} {steps : List WatchStep} {step : WatchStep}
    {change : Change} (h : (step, change) ∈ c.given steps) :
    step ∈ steps ∧ ∃ pv, step.shown? = some pv ∧ change.new = pv.snapshot := by
  induction steps generalizing c with
  | nil => cases h
  | cons first rest ih =>
    unfold given at h
    rcases List.mem_append.mp h with h | h
    · obtain ⟨change', hchange, heq⟩ := Option.map_eq_some_iff.mp (Option.mem_toList.mp h)
      cases heq
      obtain ⟨pv, hstep, rfl⟩ := (observe_eq_some c _ _).mp hchange
      refine ⟨List.mem_cons_self, pv, ?_, rfl⟩
      rcases hstep with rfl | ⟨rfl, _⟩
      · rfl
      · rfl
    · obtain ⟨hmem, hshown⟩ := ih h
      exact ⟨List.mem_cons_of_mem _ hmem, hshown⟩

/-! ## Keys that do not hang on each other -/

section Apart

variable {keys : Set String} [DecidablePred (· ∈ keys)] {c d : SnapshotCache} {step : WatchStep}

/-- The two memories hold the same under all other keys. -/
def AgreeOutside (keys : Set String) (c d : SnapshotCache) : Prop :=
  ∀ key, key ∉ keys → c.lastSeen.find? key = d.lastSeen.find? key

theorem AgreeOutside.refl (keys : Set String) (c : SnapshotCache) : AgreeOutside keys c c :=
  fun _ _ => rfl

/-- A report of the keys leaves the memory of the others. -/
theorem AgreeOutside.observe_left (h : AgreeOutside keys c d) (hstep : step.concerns keys = true) :
    AgreeOutside keys (c.observe step).1 d := by
  intro key hkey
  rw [← h key hkey]
  have hne : ∀ pv : PersistentVolume, step.key? = some pv.key → pv.key ≠ key := by
    rintro pv hpv rfl
    rw [WatchStep.concerns, hpv] at hstep
    exact hkey (of_decide_eq_true hstep)
  cases step with
  | apply pv | initApply pv | delete pv =>
    simp [observe, remember, forget, hne pv rfl]
  | init | initDone => rfl

/-- A report of other keys gives the same in both, and leaves them alike. -/
theorem AgreeOutside.observe_both (h : AgreeOutside keys c d)
    (hstep : step.concerns keys = false) :
    (c.observe step).2 = (d.observe step).2 ∧
      AgreeOutside keys (c.observe step).1 (d.observe step).1 := by
  have hsame : ∀ pv : PersistentVolume, step.key? = some pv.key →
      c.lastSnapshot? pv = d.lastSnapshot? pv := by
    intro pv hpv
    rw [WatchStep.concerns, hpv] at hstep
    exact h pv.key (of_decide_eq_false hstep)
  cases step with
  | apply pv | initApply pv | delete pv =>
    refine ⟨?_, ?_⟩
    · simp [observe, hsame pv rfl]
    · intro key hkey
      simp [observe, remember, forget, h key hkey]
  | init | initDone => exact ⟨rfl, h⟩

/-- What the other reports give is what they give among all. -/
theorem given_without (h : AgreeOutside keys c d) (steps : List WatchStep) :
    d.given (WatchStep.without keys steps) =
      (c.given steps).filter fun x => !x.1.concerns keys := by
  induction steps generalizing c d with
  | nil => rfl
  | cons step rest ih =>
    have hhead : ∀ change : Option Change,
        ((change.map fun change => (step, change)).toList.filter fun x => !x.1.concerns keys) =
          if step.concerns keys then [] else (change.map fun change => (step, change)).toList := by
      rintro (_ | change)
      · simp
      · rcases hs : step.concerns keys with _ | _ <;> simp [hs]
    unfold WatchStep.without at ih ⊢
    rw [given, List.filter_append, hhead]
    rcases hs : step.concerns keys with _ | _
    · obtain ⟨hgiven, hnext⟩ := h.observe_both hs
      rw [List.filter_cons_of_pos (by rw [hs]; rfl), given, ← ih hnext, hgiven]
      rfl
    · rw [List.filter_cons_of_neg (by rw [hs]; exact Bool.false_ne_true), ← ih (h.observe_left hs)]
      rfl

end Apart

end SnapshotCache

/-! ## Changes that are filtered out -/

namespace Supervisor

/-- What is filtered out in a run is only counted as such. -/
theorem foldl_record_filteredOut (s : Summary) (n : Nat) (reports : List TaskReport) :
    reports.foldl Summary.record { s with filteredOut := s.filteredOut + n } =
      let counted := reports.foldl Summary.record s
      { counted with filteredOut := counted.filteredOut + n } := by
  induction reports generalizing s with
  | nil => rfl
  | cons report rest ih =>
    rw [List.foldl_cons, List.foldl_cons, ← ih]
    cases report with
    | completed outcome => rfl
    | failed message => rfl
    | panicked message => rfl

section Filtered

variable {site : Site} {events others : List Change} {n : Nat}

/-- Runs on streams that differ in what is filtered out differ in the number
of it. -/
theorem inTurn_filteredOut (script : Script) (ceiling : Option Nat) (endless : Bool)
    (hadmitted : admitted site events = admitted site others)
    (hforeign : foreign site events = foreign site others + n) :
    (inTurn site script ceiling events endless).trace =
      (inTurn site script ceiling others endless).trace ∧
    (inTurn site script ceiling events endless).summary =
      (inTurn site script ceiling others endless).summary.map fun s =>
        { s with filteredOut := s.filteredOut + n } := by
  unfold inTurn
  rw [hadmitted, hforeign]
  refine ⟨rfl, ?_⟩
  dsimp only
  split
  · exact congrArg some (foldl_record_filteredOut ⟨foreign site others, _, 0, 0, 0⟩ n _)
  · rfl

theorem summary_atRest_filteredOut (script : Script) (ceiling : Option Nat)
    (hadmitted : admitted site events = admitted site others)
    (hforeign : foreign site events = foreign site others + n) :
    ((State.start ceiling events).atRest site script).summary =
      let counted := ((State.start ceiling others).atRest site script).summary
      { counted with filteredOut := counted.filteredOut + n } := by
  rw [State.atRest_start, State.atRest_start]
  simp only [hadmitted, hforeign]
  exact foldl_record_filteredOut ⟨foreign site others, _, 0, 0, 0⟩ n _

end Filtered

end Supervisor

/-! ## The law -/

namespace SnapshotCache

open Supervisor

section Foreign

variable {site : Site} {keys : Set String} [DecidablePred (· ∈ keys)] {steps : List WatchStep}

/-- No change that comes of reports of the keys is of the site's own. -/
theorem not_comesFrom_of_concerns
    (h : ∀ step ∈ steps, ∀ pv, step.shown? = some pv → pv.key ∈ keys →
      pv.source.map (·.driver) ≠ some site.provisioner)
    {x : WatchStep × Change} (hx : x ∈ fresh.given steps) (hstep : x.1.concerns keys = true) :
    Snapshot.comesFrom site.provisioner (some x.2.new) = false := by
  obtain ⟨step, change⟩ := x
  obtain ⟨hmem, pv, hshown, hnew⟩ := shown_of_mem_given hx
  have hkey : step.key? = some pv.key := by
    cases step with
    | apply q | initApply q => exact congrArg (Option.map (·.key)) hshown
    | init | initDone | delete q => cases hshown
  rw [WatchStep.concerns, hkey] at hstep
  have hdriver := h step hmem pv hshown (of_decide_eq_true hstep)
  rw [← Bool.not_eq_true, Snapshot.comesFrom_iff, hnew]
  exact hdriver

theorem admitted_without
    (h : ∀ step ∈ steps, ∀ pv, step.shown? = some pv → pv.key ∈ keys →
      pv.source.map (·.driver) ≠ some site.provisioner) :
    admitted site (fresh.changes steps) =
      admitted site (fresh.changes (WatchStep.without keys steps)) := by
  unfold admitted
  rw [← map_snd_given, ← map_snd_given, given_without (.refl keys fresh), List.filter_map,
    List.filter_map, List.filter_filter]
  congr 1
  refine List.filter_congr fun x hx => ?_
  rcases hs : x.1.concerns keys with _ | _
  · simp
  · have hno := not_comesFrom_of_concerns h hx hs
    simp [hno]

theorem foreign_without
    (h : ∀ step ∈ steps, ∀ pv, step.shown? = some pv → pv.key ∈ keys →
      pv.source.map (·.driver) ≠ some site.provisioner) :
    foreign site (fresh.changes steps) =
      foreign site (fresh.changes (WatchStep.without keys steps)) +
        (fresh.given steps).countP fun x => x.1.concerns keys := by
  unfold foreign
  rw [← map_snd_given, ← map_snd_given, given_without (.refl keys fresh), List.countP_map,
    List.countP_map, Nat.add_comm]
  rw [List.countP_eq_countP_filter_add _ _ (fun x : WatchStep × Change => x.1.concerns keys)]
  congr 1
  rw [List.countP_filter]
  refine List.countP_congr fun x hx => ?_
  rcases hs : x.1.concerns keys with _ | _
  · simp
  · have hno := not_comesFrom_of_concerns h hx hs
    simp [hno]

end Foreign

/-- Volumes of other drivers do not show. Take any reports and any keys under
which no volume of the site's own driver is ever shown, and leave out all
that is reported of these keys. The run on what is left is seen to do the
same, from its sessions to its lines, and comes to its end or not as before;
of its numbers, at its end or where it stands still, only that of the changes
filtered out is smaller, by the number of the reports left out that gave a
change. -/
theorem foreign_volumes_do_not_show (site : Site) (script : Script) (ceiling : Option Nat)
    (endless : Bool) (keys : Set String) [DecidablePred (· ∈ keys)] (steps : List WatchStep)
    (h : ∀ step ∈ steps, ∀ pv, step.shown? = some pv → pv.key ∈ keys →
      pv.source.map (·.driver) ≠ some site.provisioner) :
    let all := fresh.changes steps
    let others := fresh.changes (WatchStep.without keys steps)
    let erased := (fresh.given steps).countP fun x => x.1.concerns keys
    let counted (events : List Change) := ((State.start ceiling events).atRest site script).summary
    (maxPermits < ceiling.getD 0 →
      run site script ceiling all endless = .error {} ∧
        run site script ceiling others endless = .error {}) ∧
    (ceiling.getD 0 ≤ maxPermits → ∃ result result',
      run site script ceiling all endless = .ok result ∧
      run site script ceiling others endless = .ok result' ∧
      result.trace = result'.trace ∧
      result.summary = result'.summary.map fun s =>
        { s with filteredOut := s.filteredOut + erased }) ∧
    counted all = { counted others with filteredOut := (counted others).filteredOut + erased } := by
  intro all others erased counted
  have hadmitted : admitted site all = admitted site others := admitted_without h
  have hforeign : foreign site all = foreign site others + erased := foreign_without h
  refine ⟨?_, ?_, summary_atRest_filteredOut script ceiling hadmitted hforeign⟩
  · intro hgt
    unfold run
    rw [if_neg (by omega), if_neg (by omega)]
    exact ⟨rfl, rfl⟩
  · intro hle
    obtain ⟨htrace, hsummary⟩ := inTurn_filteredOut script ceiling endless hadmitted hforeign
    exact ⟨_, _, run_eq_inTurn site script ceiling all endless hle,
      run_eq_inTurn site script ceiling others endless hle, htrace, hsummary⟩

/-- A volume of another driver is listed, applied, deleted and applied again
between the reports of one of the watcher's own: two changes fewer are
filtered out without it, and the numbers are the same otherwise. -/
theorem a_foreign_volume_in_between :
    let pv (name driver phase : String) : PersistentVolume :=
      ⟨some name, none, none, none, some phase, none, none, none, none,
        some ⟨driver, "h", .empty⟩⟩
    let site : Site := ⟨"d", "p", .empty⟩
    let steps : List WatchStep :=
      [.init, .initApply (pv "f" "e" "Bound"), .initDone, .apply (pv "v" "d" "Pending"),
        .apply (pv "f" "e" "Released"), .apply (pv "v" "d" "Bound"),
        .delete (pv "f" "e" "Released"), .apply (pv "f" "e" "Pending")]
    (∀ step ∈ steps, ∀ pv, step.shown? = some pv → pv.key ∈ ({"f"} : Set String) →
      pv.source.map (·.driver) ≠ some site.provisioner) ∧
    ∃ result result', run site [] (some 1) (fresh.changes steps) false = .ok result ∧
      run site [] (some 1) (fresh.changes (WatchStep.without {"f"} steps)) false = .ok result' ∧
      result.trace = result'.trace ∧ result'.summary = some ⟨0, 2, 2, 0, 0⟩ ∧
      result.summary = some ⟨2, 2, 2, 0, 0⟩ := by
  intro pv site steps
  have h : ∀ step ∈ steps, ∀ pv, step.shown? = some pv → pv.key ∈ ({"f"} : Set String) →
      pv.source.map (·.driver) ≠ some site.provisioner := by
    have hshown : ∀ pv ∈ steps.filterMap WatchStep.shown?, pv.key = "f" →
        pv.source.map (·.driver) ≠ some site.provisioner := by
      decide
    intro step hstep pv hpv hkey
    exact hshown pv (List.mem_filterMap.mpr ⟨step, hstep, hpv⟩) hkey
  obtain ⟨_, hruns, _⟩ := foreign_volumes_do_not_show site [] (some 1) false {"f"} steps h
  obtain ⟨result, result', hrun, hrun', htrace, hsummary⟩ := hruns (by decide)
  have hothers : result'.summary = some ⟨0, 2, 2, 0, 0⟩ := by
    obtain rfl := Except.ok.inj hrun'
    decide
  refine ⟨h, result, result', hrun, hrun', htrace, hothers, ?_⟩
  rw [hsummary, hothers]
  decide

end SnapshotCache

end VolumeSync
