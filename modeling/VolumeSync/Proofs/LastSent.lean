import VolumeSync.Descriptor
import VolumeSync.Proofs.LiveHistory

-- What the provider was told last of a volume, against what is remembered
-- of it. A change that is skipped still moves the memory on; but what is
-- skipped is alike, and being alike adds up, so however many changes are
-- skipped, the provider would be told of the volume as it is now what it
-- was told last.

namespace VolumeSync

/-! ## What a change leaves alike -/

namespace Change

theorem Alike.refl (a : Snapshot) : Alike a a := ⟨rfl, rfl, rfl⟩

theorem Alike.trans {a b c : Snapshot} (h : Alike a b) (h' : Alike b c) : Alike a c :=
  ⟨h.1.trans h'.1, h.2.1.trans h'.2.1, h.2.2.trans h'.2.2⟩

theorem decision_eq_skip_iff (c : Change) :
    c.decision = .skip ↔ ∃ old, c.old = some old ∧ Alike old c.new := by
  unfold decision
  rcases c.old with _ | old
  · simp
  · by_cases h : Alike old c.new
    · simp [h]
    · simp [h]

end Change

namespace Site

/-- The status is in every descriptor, whatever attributes the volume has. -/
theorem status?_describe (site : Site) (s : Snapshot) :
    (site.describe s).status? =
      some (if s.phase.isReleased then Descriptor.deleted else Descriptor.created) := by
  have hstatus : ∀ status, (attributes s status).find? Descriptor.statusKey = some status := by
    intro status
    simp [attributes, Keyed.ofList]
  unfold describe Descriptor.status?
  split
  · exact hstatus _
  · exact hstatus _

/-- Of volumes that are alike the provider is told the same. -/
theorem describe_of_alike (site : Site) {a b : Snapshot} (h : Change.Alike a b) :
    (site.describe a).capacity = (site.describe b).capacity ∧
    (site.describe a).iops = (site.describe b).iops ∧
    (site.describe a).status? = (site.describe b).status? ∧
    (site.describe a).isTombstone = (site.describe b).isTombstone := by
  obtain ⟨hphase, hbytes, hiops⟩ := h
  have hstatus : (site.describe a).status? = (site.describe b).status? := by
    rw [status?_describe, status?_describe, hphase]
  refine ⟨?_, ?_, hstatus, ?_⟩
  · unfold describe
    rw [hphase, hbytes]
    split
    · rfl
    · rfl
  · unfold describe
    rw [hphase, hiops]
    split
    · rfl
    · rfl
  · unfold Descriptor.isTombstone
    rw [hstatus]

end Site

/-! ## What the provider was told last -/

/-- The step of this number is as `P` says of it after the steps before. -/
def AtStep (P : List WatchStep → WatchStep → Prop) (steps : List WatchStep) (i : Nat) : Prop :=
  ∃ step, steps[i]? = some step ∧ P (steps.take i) step

namespace SnapshotCache

/-- The volume of the key is remembered after the steps. -/
def Holds (key : String) (steps : List WatchStep) : Prop :=
  ((fresh.after steps).lastSeen.find? key).isSome

/-- The step brings the key into the memory. -/
def Enters (key : String) (before : List WatchStep) (step : WatchStep) : Prop :=
  ¬ Holds key before ∧ Holds key (before ++ [step])

/-- The step shows the volume of the key and gives the change. -/
def Gives (key : String) (change : Change) (before : List WatchStep) (step : WatchStep) : Prop :=
  step.Shows key ∧ ((fresh.after before).observe step).2 = some change

/-- The step lists the volume of the key as the snapshot. -/
def Lists (key : String) (s : Snapshot) (_ : List WatchStep) (step : WatchStep) : Prop :=
  ∃ pv, step = .initApply pv ∧ pv.key = key ∧ pv.snapshot = s

/-- The step of this number is the last to bring the key into the memory. -/
def LastEnters (key : String) (steps : List WatchStep) (e : Nat) : Prop :=
  AtStep (Enters key) steps e ∧ ∀ i, e < i → ¬ AtStep (Enters key) steps i

/-- Of the changes of the key from the step on, the latest that has to reach
the provider leads to the snapshot. -/
def LastSent (key : String) (steps : List WatchStep) (e : Nat) (s : Snapshot) : Prop :=
  ∃ i change, e ≤ i ∧ AtStep (Gives key change) steps i ∧ change.decision = .process ∧
    change.new = s ∧
    ∀ j later, i < j → AtStep (Gives key later) steps j → later.decision = .skip

/-- None of the changes of the key from the step on has to reach the
provider, and the step itself listed the volume as the snapshot. -/
def OnlyPrimed (key : String) (steps : List WatchStep) (e : Nat) (s : Snapshot) : Prop :=
  (∀ j change, e ≤ j → AtStep (Gives key change) steps j → change.decision = .skip) ∧
    AtStep (Lists key s) steps e

/-- The provider knows the volume of the key as the snapshot: since the key
came into the memory last, it was told of it last, or there was nothing to
tell and the snapshot is the one that the memory began with. -/
def IsBase (key : String) (steps : List WatchStep) (s : Snapshot) : Prop :=
  ∃ e, LastEnters key steps e ∧ (LastSent key steps e s ∨ OnlyPrimed key steps e s)

end SnapshotCache

/-! ## One more step -/

section Snoc

variable {P : List WatchStep → WatchStep → Prop} {steps : List WatchStep} {step : WatchStep}
  {i e : Nat}

theorem AtStep.lt_length (h : AtStep P steps i) : i < steps.length := by
  obtain ⟨step, hget, _⟩ := h
  exact (List.getElem?_eq_some_iff.mp hget).1

theorem atStep_snoc :
    AtStep P (steps ++ [step]) i ↔ AtStep P steps i ∨ (i = steps.length ∧ P steps step) := by
  unfold AtStep
  rcases Nat.lt_trichotomy i steps.length with hi | rfl | hi
  · have hne : i ≠ steps.length := by omega
    rw [List.getElem?_append_left hi, List.take_append_of_le_length (Nat.le_of_lt hi)]
    simp [hne]
  · simp
  · have hne : i ≠ steps.length := by omega
    simp [hne, List.getElem?_eq_none (show steps.length ≤ i by omega),
      List.getElem?_eq_none (show (steps ++ [step]).length ≤ i by simp; omega)]

namespace SnapshotCache

variable {key : String} {s : Snapshot}

theorem lastEnters_snoc_of_not (h : ¬ Enters key steps step) :
    LastEnters key (steps ++ [step]) e ↔ LastEnters key steps e := by
  unfold LastEnters
  simp only [atStep_snoc, h, and_false, or_false]

theorem lastEnters_snoc_of_enters (h : Enters key steps step) :
    LastEnters key (steps ++ [step]) e ↔ e = steps.length := by
  unfold LastEnters
  simp only [atStep_snoc, h, and_true]
  constructor
  · rintro ⟨he | he, hlast⟩
    · exact absurd (Or.inr rfl) (hlast steps.length he.lt_length)
    · exact he
  · rintro rfl
    refine ⟨Or.inr rfl, ?_⟩
    rintro i hi (h | h)
    · have := h.lt_length
      omega
    · omega

/-- A step that neither brings the key in nor has anything to tell leaves
what the provider knows. -/
theorem isBase_snoc_of_skip (hin : ¬ Enters key steps step)
    (hskip : ∀ change, Gives key change steps step → change.decision = .skip) :
    IsBase key (steps ++ [step]) s ↔ IsBase key steps s := by
  unfold IsBase
  refine exists_congr fun e => ?_
  rw [lastEnters_snoc_of_not hin]
  refine and_congr_right fun he => or_congr ?_ ?_
  · unfold LastSent
    simp only [atStep_snoc]
    constructor
    · rintro ⟨i, change, hi, hat | ⟨_, hgives⟩, hsent, hnew, hlater⟩
      · exact ⟨i, change, hi, hat, hsent, hnew, fun j later hj h => hlater j later hj (Or.inl h)⟩
      · rw [hskip change hgives] at hsent
        cases hsent
    · rintro ⟨i, change, hi, hat, hsent, hnew, hlater⟩
      refine ⟨i, change, hi, Or.inl hat, hsent, hnew, ?_⟩
      rintro j later hj (h | ⟨_, hgives⟩)
      · exact hlater j later hj h
      · exact hskip later hgives
  · have hlt := he.1.lt_length
    have hne : e ≠ steps.length := by omega
    unfold OnlyPrimed
    simp only [atStep_snoc, hne, false_and, or_false]
    refine and_congr_left fun _ => ?_
    constructor
    · intro h j change hj hat
      exact h j change hj (Or.inl hat)
    · rintro h j change hj (hat | ⟨_, hgives⟩)
      · exact h j change hj hat
      · exact hskip change hgives

/-- A change that has to reach the provider is what it knows then. -/
theorem isBase_snoc_of_sent {change : Change} (hin : LastEnters key (steps ++ [step]) e)
    (hgives : Gives key change steps step) (hsent : change.decision = .process) :
    IsBase key (steps ++ [step]) s ↔ s = change.new := by
  have hself : AtStep (Gives key change) (steps ++ [step]) steps.length :=
    atStep_snoc.mpr (Or.inr ⟨rfl, hgives⟩)
  have hle : ∀ {e}, LastEnters key (steps ++ [step]) e → e ≤ steps.length := by
    intro e he
    have := he.1.lt_length
    rw [List.length_append, List.length_singleton] at this
    omega
  constructor
  · rintro ⟨e', he', ⟨i, last, hi, hat, _, rfl, hlater⟩ | ⟨hnone, _⟩⟩
    · rcases atStep_snoc.mp hat with hat | ⟨_, hlast⟩
      · have hskip := hlater steps.length change hat.lt_length hself
        rw [hskip] at hsent
        cases hsent
      · rw [Option.some.inj (hlast.2.symm.trans hgives.2)]
    · have hskip := hnone steps.length change (hle he') hself
      rw [hskip] at hsent
      cases hsent
  · rintro rfl
    refine ⟨e, hin, Or.inl ⟨steps.length, change, hle hin, hself, hsent, rfl, ?_⟩⟩
    intro j later hj hat
    have := hat.lt_length
    rw [List.length_append, List.length_singleton] at this
    omega

/-- A volume that a list brings in is known as it is listed. -/
theorem isBase_snoc_of_primed {pv : PersistentVolume} (hkey : pv.key = key)
    (hin : Enters key steps (.initApply pv)) :
    IsBase key (steps ++ [.initApply pv]) s ↔ s = pv.snapshot := by
  have hnone : ∀ change, ¬ Gives key change steps (.initApply pv) := by
    rintro change ⟨_, hgives⟩
    obtain ⟨q, hq | ⟨hq, hheld⟩, _⟩ := (observe_eq_some _ _ _).mp hgives
    · cases hq
    · cases hq
      rw [← hkey] at hin
      exact hin.1 hheld
  have hgone : ∀ {j change}, steps.length ≤ j →
      ¬ AtStep (Gives key change) (steps ++ [.initApply pv]) j := by
    intro j change hj hat
    rcases atStep_snoc.mp hat with hat | ⟨_, hgives⟩
    · have := hat.lt_length
      omega
    · exact hnone change hgives
  constructor
  · rintro ⟨e, he, hbase⟩
    obtain rfl := (lastEnters_snoc_of_enters hin).mp he
    rcases hbase with ⟨i, change, hi, hat, _⟩ | ⟨_, hlists⟩
    · exact absurd hat (hgone hi)
    · rcases atStep_snoc.mp hlists with hlists | ⟨_, q, hq, _, hs⟩
      · exact absurd hlists.lt_length (Nat.lt_irrefl _)
      · cases hq
        exact hs.symm
  · rintro rfl
    refine ⟨steps.length, (lastEnters_snoc_of_enters hin).mpr rfl, Or.inr ⟨?_, ?_⟩⟩
    · intro j change hj hat
      exact absurd hat (hgone hj)
    · exact atStep_snoc.mpr (Or.inr ⟨rfl, pv, rfl, hkey, rfl⟩)

/-- A step that applies a volume, or lists one that is remembered, gives
the change from what is remembered. -/
theorem gives_of_shown {pv : PersistentVolume} (hshown : step.shown? = some pv)
    (hkey : pv.key = key) (h : step = .apply pv ∨ Holds key steps) :
    Gives key ⟨(fresh.after steps).lastSeen.find? key, pv.snapshot⟩ steps step := by
  refine ⟨⟨pv, hshown, hkey⟩, (observe_eq_some _ _ _).mpr ⟨pv, ?_, by rw [lastSnapshot?, hkey]⟩⟩
  cases step with
  | apply q =>
    cases hshown
    exact Or.inl rfl
  | initApply q =>
    cases hshown
    rcases h with h | h
    · cases h
    · rw [← hkey] at h
      exact Or.inr ⟨rfl, h⟩
  | init | initDone | delete q => cases hshown

/-- A volume that was not remembered is known as it is shown first. -/
theorem isBase_snoc_of_enters {pv : PersistentVolume} (hshown : step.shown? = some pv)
    (hkey : pv.key = key) (hin : Enters key steps step) :
    IsBase key (steps ++ [step]) s ↔ s = pv.snapshot := by
  cases step with
  | apply q =>
    cases hshown
    have hnone : (fresh.after steps).lastSeen.find? key = none := by
      rcases hold : (fresh.after steps).lastSeen.find? key with _ | old
      · rfl
      · refine absurd ?_ hin.1
        rw [Holds, hold]
        rfl
    have hgives : Gives key ⟨(fresh.after steps).lastSeen.find? key, pv.snapshot⟩ steps
        (.apply pv) := gives_of_shown rfl hkey (Or.inl rfl)
    rw [hnone] at hgives
    exact isBase_snoc_of_sent ((lastEnters_snoc_of_enters hin).mpr rfl) hgives rfl
  | initApply q =>
    cases hshown
    exact isBase_snoc_of_primed hkey hin
  | init | initDone | delete q => cases hshown

end SnapshotCache

end Snoc

namespace SnapshotCache

/-- There is one snapshot that the provider knows of a remembered volume,
and the memory is alike. -/
theorem exists_base (steps : List WatchStep) (key : String) (cached : Snapshot)
    (h : (fresh.after steps).lastSeen.find? key = some cached) :
    ∃ base, (∀ s, IsBase key steps s ↔ s = base) ∧ Change.Alike base cached := by
  induction steps using List.reverseRecOn generalizing cached with
  | nil => simp [after, fresh] at h
  | append_singleton steps step ih =>
    have hnow : Holds key (steps ++ [step]) := by
      rw [Holds, h]
      rfl
    have hheld : ∀ {old}, (fresh.after steps).lastSeen.find? key = some old →
        Holds key steps := by
      intro old hold
      rw [Holds, hold]
      rfl
    rw [after_snoc, find?_observe] at h
    rcases h with ⟨pv, hshown, hkey, rfl⟩ | ⟨hkept, hshows, _⟩
    · rcases hold : (fresh.after steps).lastSeen.find? key with _ | old
      · have hin : Enters key steps step := by
          refine ⟨?_, hnow⟩
          rw [Holds, hold]
          exact Bool.false_ne_true
        exact ⟨pv.snapshot, fun s => isBase_snoc_of_enters hshown hkey hin, Change.Alike.refl _⟩
      · obtain ⟨base, hbase, halike⟩ := ih old hold
        have hnot : ¬ Enters key steps step := fun hin => hin.1 (hheld hold)
        have hgives := gives_of_shown hshown hkey (Or.inr (hheld hold))
        rw [hold] at hgives
        by_cases hskip : Change.Alike old pv.snapshot
        -- A skipped change leaves what the provider knows, and is alike to it.
        · refine ⟨base, ?_, halike.trans hskip⟩
          intro s
          rw [isBase_snoc_of_skip hnot, hbase]
          intro change hchange
          rw [← Option.some.inj (hgives.2.symm.trans hchange.2)]
          exact (Change.decision_eq_skip_iff _).mpr ⟨old, rfl, hskip⟩
        · obtain ⟨e, he, _⟩ := (hbase base).mpr rfl
          refine ⟨pv.snapshot, ?_, Change.Alike.refl _⟩
          intro s
          refine isBase_snoc_of_sent ((lastEnters_snoc_of_not hnot).mpr he) hgives ?_
          simp [Change.decision, hskip]
    · obtain ⟨base, hbase, halike⟩ := ih cached hkept
      refine ⟨base, ?_, halike⟩
      intro s
      rw [isBase_snoc_of_skip, hbase]
      · exact fun hin => hin.1 (hheld hkept)
      · rintro change ⟨hs, _⟩
        exact absurd hs hshows

/-! ## The law -/

/-- Skipped changes never add up to one that matters. Whatever reports have
come, the volume that is remembered under a key is known to the provider as
one snapshot, and the change from that one to the remembered one would be
skipped; every site describes the two with the same capacity, the same rate
and the same status, and both as tombstones or neither. -/
theorem skipped_changes_never_add_up (steps : List WatchStep) (key : String)
    (cached : Snapshot) (h : (fresh.after steps).lastSeen.find? key = some cached) :
    ∃ base, (∀ s, IsBase key steps s ↔ s = base) ∧
      Change.decision ⟨some base, cached⟩ = .skip ∧
      ∀ site : Site,
        (site.describe base).capacity = (site.describe cached).capacity ∧
        (site.describe base).iops = (site.describe cached).iops ∧
        (site.describe base).status? = (site.describe cached).status? ∧
        (site.describe base).isTombstone = (site.describe cached).isTombstone := by
  obtain ⟨base, hbase, halike⟩ := exists_base steps key cached h
  refine ⟨base, hbase, (Change.decision_eq_skip_iff _).mpr ⟨base, rfl, halike⟩, ?_⟩
  intro site
  exact site.describe_of_alike halike

/-- A volume is listed without a capacity, then shown with none to speak
of, and listed again under another policy: the provider knows it as at
first, with no gibibytes. -/
theorem a_capacity_of_zero_is_no_news :
    let pv (storage policy : Option String) : PersistentVolume :=
      ⟨some "v", none, none, none, some "Bound", storage, none, policy, none,
        some ⟨"d", "h", .empty⟩⟩
    let steps : List WatchStep := [.initApply (pv none none), .initDone,
      .apply (pv (some "0") none), .init, .initApply (pv (some "0Gi") (some "Retain")), .initDone]
    (fresh.after steps).lastSeen.find? "v" = some (pv (some "0Gi") (some "Retain")).snapshot ∧
    ∃ base, (∀ s, IsBase "v" steps s ↔ s = base) ∧
      ∀ site : Site, (site.describe base).capacity = some 0 := by
  intro pv steps
  have h : (fresh.after steps).lastSeen.find? "v" =
      some (pv (some "0Gi") (some "Retain")).snapshot := by
    decide +kernel
  obtain ⟨base, hbase, _, hsite⟩ := skipped_changes_never_add_up steps "v" _ h
  refine ⟨h, base, hbase, ?_⟩
  intro site
  have hgib : wholeGibibytes (pv (some "0Gi") (some "Retain")).snapshot.bytes = 0 := by
    decide +kernel
  rw [(hsite site).1, ← hgib]
  rfl

end SnapshotCache

end VolumeSync
