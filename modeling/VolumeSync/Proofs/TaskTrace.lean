import VolumeSync.Supervisor

-- What is seen of one task. It asks for one session at most, and it
-- sends tags only at a first bind, after the metadata call was answered.

namespace VolumeSync

/-! ## Parts of a trace -/

namespace Trace

@[simp] theorem requests_append (s t : Trace) :
    requests (s ++ t) = requests s ++ requests t := List.filterMap_append

@[simp] theorem calls_append (s t : Trace) : calls (s ++ t) = calls s ++ calls t :=
  List.filterMap_append

/-- The tag calls that were made. -/
def tagCalls (t : Trace) : List Call := t.calls.filter (·.kind = .tags)

@[simp] theorem tagCalls_append (s t : Trace) :
    tagCalls (s ++ t) = tagCalls s ++ tagCalls t := by
  simp [tagCalls, List.filter_append]

/-- The tag calls of many traces, one after the other. -/
theorem tagCalls_flatMap {α : Type} (f : α → Trace) (xs : List α) :
    tagCalls (xs.flatMap f) = xs.flatMap fun x => tagCalls (f x) := by
  induction xs with
  | nil => rfl
  | cons x xs ih => rw [List.flatMap_cons, tagCalls_append, ih, List.flatMap_cons]

end Trace

/-! ## First binds -/

namespace Change

theorem isFirstBind_iff (change : Change) :
    change.isFirstBind = true ↔
      ∃ old, change.old = some old ∧ old.phase ≠ .bound ∧ change.new.phase = .bound := by
  unfold isFirstBind
  rcases change.old with _ | old
  · simp
  · simp [← Phase.isBound_iff]

/-- A volume that bound just now had another phase before. -/
theorem isMaterial_of_isFirstBind {change : Change} (h : change.isFirstBind = true) :
    change.isMaterial = true := by
  obtain ⟨old, hold, hunbound, hbound⟩ := (isFirstBind_iff change).mp h
  have hne : ¬ Alike old change.new := fun halike => hunbound (halike.1.trans hbound)
  simp [isMaterial, decision, hold, hne]

end Change

/-! ## One task -/

/-- The provider grants the session and answers the metadata call, be it
with an error. -/
def Behaviour.reachesTags (b : Behaviour) : Bool :=
  match b.session, b.metadata with
  | .granted, .succeed => true
  | .granted, .fail _ => true
  | _, _ => false

namespace Reconcile

theorem requests_tagPhase (site : Site) (change : Change) (n : Nat) (act : Act) (saved : Bool) :
    (tagPhase site change n act saved).trace.requests = [] := by
  unfold tagPhase
  split
  · cases act <;> rfl
  · rfl

theorem requests_metadataPhase (site : Site) (change : Change) (n : Nat) (b : Behaviour) :
    (metadataPhase site change n b).trace.requests = [] := by
  unfold metadataPhase
  cases b.metadata with
  | succeed => exact requests_tagPhase site change n b.tags true
  | fail f => exact requests_tagPhase site change n b.tags false
  | panic payload => rfl
  | hang => rfl

/-- A task asks for one session if its change has to reach the provider,
and for none if not. -/
theorem requests_run (site : Site) (change : Change) (n : Nat) (b : Behaviour) :
    (run site change n b).trace.requests = if change.isMaterial then [n] else [] := by
  unfold run
  split
  · cases b.session with
    | granted =>
      have h := requests_metadataPhase site change n b
      simp only [TaskRun.after, Trace.requests_append, h]
      rfl
    | unavailable => rfl
    | fail f => rfl
    | panic payload => rfl
    | hang => rfl
  · rfl

theorem tagCalls_tagPhase (site : Site) (change : Change) (n : Nat) (act : Act) (saved : Bool) :
    (tagPhase site change n act saved).trace.tagCalls =
      if change.isFirstBind then [⟨n, .tags, site.describe change.new⟩] else [] := by
  unfold tagPhase
  split
  · cases act <;> rfl
  · rfl

theorem tagCalls_metadataPhase (site : Site) (change : Change) (n : Nat) (b : Behaviour)
    (h : b.session = .granted) :
    (metadataPhase site change n b).trace.tagCalls =
      if change.isFirstBind && b.reachesTags then [⟨n, .tags, site.describe change.new⟩]
      else [] := by
  unfold metadataPhase Behaviour.reachesTags
  rw [h]
  cases b.metadata with
  | succeed =>
    simp only [TaskRun.after, Trace.tagCalls_append, tagCalls_tagPhase, Bool.and_true]
    rfl
  | fail f =>
    simp only [TaskRun.after, Trace.tagCalls_append, tagCalls_tagPhase, Bool.and_true]
    rfl
  | panic payload => simp only [Bool.and_false]; rfl
  | hang => simp only [Bool.and_false]; rfl

/-- A task sends tags once if the volume bound just now and the provider
got it that far, and never otherwise. -/
theorem tagCalls_run (site : Site) (change : Change) (n : Nat) (b : Behaviour) :
    (run site change n b).trace.tagCalls =
      if change.isFirstBind && b.reachesTags then [⟨n, .tags, site.describe change.new⟩]
      else [] := by
  unfold run
  split
  · rcases hs : b.session with _ | _ | f | payload | _
    · have h := tagCalls_metadataPhase site change n b hs
      simp only [TaskRun.after, Trace.tagCalls_append, h]
      rfl
    all_goals
      have hno : b.reachesTags = false := by simp [Behaviour.reachesTags, hs]
      rw [hno, Bool.and_false]
      rfl
  · rename_i hm
    have hb : change.isFirstBind = false := by
      rcases hf : change.isFirstBind with _ | _
      · rfl
      · exact absurd (Change.isMaterial_of_isFirstBind hf) hm
    rw [hb, Bool.false_and]
    rfl

end Reconcile

end VolumeSync
