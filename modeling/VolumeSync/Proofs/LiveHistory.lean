import Mathlib.Data.List.Induction
import VolumeSync.Proofs.FiniteMaps
import VolumeSync.SnapshotCache

-- The laws of the memory of the watch. After any reports it holds exactly
-- the volumes that were shown and not deleted since, each as it was shown
-- last, whether or not a change came of that.

namespace VolumeSync

/-! ## What a history says of a key -/

namespace WatchStep

/-- The volume that the step shows as it is now. -/
def shown? : WatchStep → Option PersistentVolume
  | .apply pv => some pv
  | .initApply pv => some pv
  | _ => none

/-- The step shows the volume of the key. -/
def Shows (key : String) (step : WatchStep) : Prop := ∃ pv, step.shown? = some pv ∧ pv.key = key

/-- The step deletes the volume of the key. -/
def Deletes (key : String) (step : WatchStep) : Prop := ∃ pv, step = .delete pv ∧ pv.key = key

end WatchStep

/-- Some step is as `P` says, and all steps since are as `Q` says. -/
def Since (P Q : WatchStep → Prop) (steps : List WatchStep) : Prop :=
  ∃ before step later, steps = before ++ step :: later ∧ P step ∧ ∀ x ∈ later, Q x

/-- The volume of the key was shown and not deleted since. -/
def Live (steps : List WatchStep) (key : String) : Prop :=
  Since (·.Shows key) (fun x => ¬ x.Deletes key) steps

/-- The object is what the volume of the key was shown as last, and it was
not deleted since. -/
def LastShown (steps : List WatchStep) (key : String) (pv : PersistentVolume) : Prop :=
  Since (fun x => x.shown? = some pv ∧ pv.key = key) (fun x => ¬ x.Shows key ∧ ¬ x.Deletes key)
    steps

theorem not_since_nil (P Q : WatchStep → Prop) : ¬ Since P Q [] := by
  rintro ⟨before, step, later, h, _⟩
  simp at h

theorem since_snoc (P Q : WatchStep → Prop) (steps : List WatchStep) (step : WatchStep) :
    Since P Q (steps ++ [step]) ↔ P step ∨ (Since P Q steps ∧ Q step) := by
  constructor
  · rintro ⟨before, x, later, h, hp, hq⟩
    -- The step that `P` speaks of is the last one, or the last one comes after it.
    rcases List.eq_nil_or_concat later with rfl | ⟨later, y, rfl⟩
    · obtain ⟨_, rfl⟩ := List.append_singleton_inj.mp h
      exact Or.inl hp
    · rw [List.concat_eq_append, ← List.cons_append, ← List.append_assoc] at h
      obtain ⟨rfl, rfl⟩ := List.append_singleton_inj.mp h
      refine Or.inr ⟨⟨before, x, later, rfl, hp, fun z hz => hq z ?_⟩, hq step ?_⟩
      · simp [hz]
      · simp
  · rintro (hp | ⟨⟨before, x, later, rfl, hp, hq⟩, hs⟩)
    · exact ⟨steps, step, [], rfl, hp, by simp⟩
    · refine ⟨before, x, later ++ [step], by simp, hp, fun z hz => ?_⟩
      rcases List.mem_append.mp hz with hz | hz
      · exact hq z hz
      · rw [List.mem_singleton.mp hz]
        exact hs

/-- What is live was shown last as something. -/
theorem live_iff (steps : List WatchStep) (key : String) :
    Live steps key ↔ ∃ pv, LastShown steps key pv := by
  unfold Live LastShown
  induction steps using List.reverseRecOn with
  | nil => simp [not_since_nil]
  | append_singleton steps step ih =>
    simp only [since_snoc, ih]
    constructor
    · rintro (⟨pv, h1, h2⟩ | ⟨⟨pv, hpv⟩, hd⟩)
      · exact ⟨pv, Or.inl ⟨h1, h2⟩⟩
      · by_cases hs : step.Shows key
        · obtain ⟨q, h1, h2⟩ := hs
          exact ⟨q, Or.inl ⟨h1, h2⟩⟩
        · exact ⟨pv, Or.inr ⟨hpv, hs, hd⟩⟩
    · rintro ⟨pv, h | ⟨h, _, hd⟩⟩
      · exact Or.inl ⟨pv, h⟩
      · exact Or.inr ⟨⟨pv, h⟩, hd⟩

/-! ## The memory -/

namespace SnapshotCache

theorem after_snoc (c : SnapshotCache) (steps : List WatchStep) (step : WatchStep) :
    c.after (steps ++ [step]) = ((c.after steps).observe step).1 := by
  simp [after]

theorem changes_append (c : SnapshotCache) (steps more : List WatchStep) :
    c.changes (steps ++ more) = c.changes steps ++ (c.after steps).changes more := by
  induction steps generalizing c with
  | nil => rfl
  | cons x steps ih => simp only [List.cons_append, changes, ih, List.append_assoc, after,
      List.foldl_cons]

theorem changes_snoc (c : SnapshotCache) (steps : List WatchStep) (step : WatchStep) :
    c.changes (steps ++ [step]) = c.changes steps ++ ((c.after steps).observe step).2.toList := by
  rw [changes_append]
  simp [changes]

/-- What one report does to a key: it is remembered as it is shown, it is
forgotten if it is deleted, and otherwise it is kept. -/
theorem find?_observe (c : SnapshotCache) (step : WatchStep) (key : String) (s : Snapshot) :
    (c.observe step).1.lastSeen.find? key = some s ↔
      (∃ pv, step.shown? = some pv ∧ pv.key = key ∧ pv.snapshot = s) ∨
        (c.lastSeen.find? key = some s ∧ ¬ step.Shows key ∧ ¬ step.Deletes key) := by
  cases step with
  | init => simp [observe, WatchStep.shown?, WatchStep.Shows, WatchStep.Deletes]
  | initDone => simp [observe, WatchStep.shown?, WatchStep.Shows, WatchStep.Deletes]
  | initApply pv | apply pv =>
    by_cases hk : pv.key = key <;>
      simp [observe, remember, WatchStep.shown?, WatchStep.Shows, WatchStep.Deletes, hk]
  | delete pv =>
    by_cases hk : pv.key = key <;>
      simp [observe, forget, WatchStep.shown?, WatchStep.Shows, WatchStep.Deletes, hk]

/-- The memory of a key is the snapshot of what it was shown as last. -/
theorem find?_after (steps : List WatchStep) (key : String) (s : Snapshot) :
    (fresh.after steps).lastSeen.find? key = some s ↔
      ∃ pv, LastShown steps key pv ∧ pv.snapshot = s := by
  unfold LastShown
  induction steps using List.reverseRecOn with
  | nil => simp [after, fresh, not_since_nil]
  | append_singleton steps step ih =>
    simp only [after_snoc, find?_observe, since_snoc, ih]
    constructor
    · rintro (⟨pv, h1, h2, h3⟩ | ⟨⟨pv, h1, h2⟩, h3⟩)
      · exact ⟨pv, Or.inl ⟨h1, h2⟩, h3⟩
      · exact ⟨pv, Or.inr ⟨h1, h3⟩, h2⟩
    · rintro ⟨pv, ⟨h1, h2⟩ | ⟨h1, h3⟩, h2'⟩
      · exact Or.inl ⟨pv, h1, h2, h2'⟩
      · exact Or.inr ⟨⟨pv, h1, h2'⟩, h3⟩

theorem isSome_find?_after (steps : List WatchStep) (key : String) :
    ((fresh.after steps).lastSeen.find? key).isSome ↔ Live steps key := by
  rw [live_iff, Option.isSome_iff_exists]
  simp only [find?_after]
  constructor
  · rintro ⟨s, pv, h, _⟩
    exact ⟨pv, h⟩
  · rintro ⟨pv, h⟩
    exact ⟨pv.snapshot, pv, h, rfl⟩

/-- What a report gives: a volume that is applied always gives a change,
one of a list only if it was remembered. -/
theorem observe_eq_some (c : SnapshotCache) (step : WatchStep) (change : Change) :
    (c.observe step).2 = some change ↔
      ∃ pv, (step = .apply pv ∨ (step = .initApply pv ∧ (c.lastSnapshot? pv).isSome)) ∧
        change = ⟨c.lastSnapshot? pv, pv.snapshot⟩ := by
  cases step with
  | init => simp [observe]
  | initDone => simp [observe]
  | delete pv => simp [observe]
  | apply pv =>
    simp only [observe, Option.some.injEq]
    constructor
    · rintro rfl
      exact ⟨pv, Or.inl rfl, rfl⟩
    · rintro ⟨q, h | ⟨h, _⟩, rfl⟩ <;> cases h
      rfl
  | initApply pv =>
    simp only [observe, Option.map_eq_some_iff]
    constructor
    · rintro ⟨old, h, rfl⟩
      exact ⟨pv, Or.inr ⟨rfl, by simp [h]⟩, by rw [h]⟩
    · rintro ⟨q, h | ⟨h, hs⟩, rfl⟩ <;> cases h
      obtain ⟨old, hold⟩ := Option.isSome_iff_exists.mp hs
      exact ⟨old, hold, by rw [hold]⟩

/-! ## The laws -/

/-- After any reports to a fresh memory, a key is in it if and only if its
volume was shown and not deleted since, and then it holds the snapshot of
what was shown last. Its size counts these keys. The next report gives a
change if and only if it applies a volume, or lists one that is remembered,
and the change goes from what was shown last to what is shown now. -/
theorem the_memory_is_the_live_history (steps : List WatchStep) :
    let memory := fresh.after steps
    (∀ key, (memory.lastSeen.find? key).isSome ↔ Live steps key) ∧
    (∀ key s, memory.lastSeen.find? key = some s ↔
      ∃ pv, LastShown steps key pv ∧ pv.snapshot = s) ∧
    (∃ keys : List String, keys.Nodup ∧ (∀ key, key ∈ keys ↔ Live steps key) ∧
      memory.size = keys.length) ∧
    (memory.isEmpty ↔ ∀ key, ¬ Live steps key) ∧
    (∀ step change, (memory.observe step).2 = some change ↔
      ∃ pv, (step = .apply pv ∨ (step = .initApply pv ∧ Live steps pv.key)) ∧
        change.new = pv.snapshot ∧
        ∀ s, change.old = some s ↔ ∃ last, LastShown steps pv.key last ∧ last.snapshot = s) ∧
    (∀ step, fresh.changes (steps ++ [step]) =
      fresh.changes steps ++ (memory.observe step).2.toList) := by
  intro memory
  have hkeys : ∀ key, key ∈ memory.lastSeen.keys ↔ Live steps key := fun key => by
    rw [Keyed.mem_keys, isSome_find?_after]
  refine ⟨isSome_find?_after steps, find?_after steps,
    ⟨memory.lastSeen.keys, memory.lastSeen.nodup_keys, hkeys, memory.lastSeen.length_keys.symm⟩,
    ?_, ?_, changes_snoc fresh steps⟩
  · simp only [← hkeys]
    rw [← List.eq_nil_iff_forall_not_mem, Keyed.keys, List.map_eq_nil_iff]
    exact List.isEmpty_iff
  · intro step change
    rw [observe_eq_some]
    refine exists_congr fun pv => and_congr ?_ ?_
    · rw [← isSome_find?_after]
      rfl
    · constructor
      · rintro rfl
        exact ⟨rfl, find?_after steps pv.key⟩
      · rintro ⟨hnew, hold⟩
        have h : change.old = memory.lastSnapshot? pv :=
          Option.ext fun s => (hold s).trans (find?_after steps pv.key s).symm
        cases change
        simp_all

end SnapshotCache

end VolumeSync
