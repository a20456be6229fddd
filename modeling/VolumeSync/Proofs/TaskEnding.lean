import VolumeSync.Proofs.Interleaving
import VolumeSync.Proofs.Sequence

-- How one task ends. It ends as the calls say that it comes to, and the
-- number of its session, which hangs on the tasks before it, shows only
-- where the session is named.

namespace VolumeSync

/-! ## Session numbers -/

/-- The effect with another session number. -/
def Effect.renumbered (session : Nat) : Effect → Effect
  | .requested _ => .requested session
  | .called call => .called { call with session }
  | effect => effect

namespace TaskRun

def renumbered (session : Nat) (r : TaskRun) : TaskRun :=
  ⟨r.trace.map (Effect.renumbered session), r.ending⟩

theorem renumbered_after (session : Nat) (seen : Trace) (r : TaskRun) :
    (r.after seen).renumbered session =
      (r.renumbered session).after (seen.map (Effect.renumbered session)) := by
  simp [renumbered, after]

/-- The supervisor's own lines name no session. -/
theorem watched_renumbered (session : Nat) (r : TaskRun) :
    (r.renumbered session).watched = r.watched.map (Effect.renumbered session) := by
  simp [renumbered, watched, Function.comp_def, Effect.renumbered]

end TaskRun

namespace Reconcile

theorem renumbered_tagPhase (site : Site) (change : Change) (m n : Nat) (act : Act)
    (saved : Bool) :
    (tagPhase site change m act saved).renumbered n = tagPhase site change n act saved := by
  unfold tagPhase
  split
  · cases act <;> rfl
  · rfl

theorem renumbered_metadataPhase (site : Site) (change : Change) (m n : Nat) (b : Behaviour) :
    (metadataPhase site change m b).renumbered n = metadataPhase site change n b := by
  unfold metadataPhase
  cases b.metadata with
  | succeed =>
    dsimp only
    rw [TaskRun.renumbered_after, renumbered_tagPhase]
    rfl
  | fail f =>
    dsimp only
    rw [TaskRun.renumbered_after, renumbered_tagPhase]
    rfl
  | panic payload => rfl
  | hang => rfl

/-- A task with another session number is the same but for the number. -/
theorem renumbered_run (site : Site) (change : Change) (m n : Nat) (b : Behaviour) :
    (run site change m b).renumbered n = run site change n b := by
  unfold run
  split
  · cases b.session with
    | granted =>
      dsimp only
      rw [TaskRun.renumbered_after, renumbered_metadataPhase]
      rfl
    | unavailable => rfl
    | fail f => rfl
    | panic payload => rfl
    | hang => rfl
  · rfl

/-- A request, two calls, and a line and a notification on each: no more
is seen of a task. -/
theorem length_trace_run_le (site : Site) (change : Change) (n : Nat) (b : Behaviour) :
    (run site change n b).trace.length ≤ 7 := by
  have htags : ∀ saved, (tagPhase site change n b.tags saved).trace.length ≤ 3 := by
    intro saved
    unfold tagPhase
    split
    · cases b.tags <;> simp
    · simp
  have hmetadata : (metadataPhase site change n b).trace.length ≤ 6 := by
    unfold metadataPhase
    have h1 := htags true
    have h2 := htags false
    cases b.metadata with
    | succeed => simp [TaskRun.after]; omega
    | fail f => simp [TaskRun.after]; omega
    | panic payload => simp
    | hang => simp
  unfold run
  split
  · cases b.session with
    | granted => simp [TaskRun.after]; omega
    | unavailable => simp
    | fail f => simp
    | panic payload => simp
    | hang => simp
  · simp

end Reconcile

/-! ## What a task plays -/

namespace Act

/-- The call is answered, be it with an error. -/
def answers : Act → Bool
  | .succeed => true
  | .fail _ => true
  | _ => false

def panics : Act → Bool
  | .panic _ => true
  | _ => false

def hangs : Act → Bool
  | .hang => true
  | _ => false

theorem eq_false_of_answers {act : Act} (h : act.answers = true) :
    act.panics = false ∧ act.hangs = false := by
  cases act with
  | succeed => exact ⟨rfl, rfl⟩
  | fail f => exact ⟨rfl, rfl⟩
  | panic payload => cases h
  | hang => cases h

end Act

namespace Grant

def fails : Grant → Bool
  | .fail _ => true
  | _ => false

def panics : Grant → Bool
  | .panic _ => true
  | _ => false

def hangs : Grant → Bool
  | .hang => true
  | _ => false

end Grant

namespace Behaviour

/-- Some call hangs, if it is made. -/
def hangs (b : Behaviour) : Bool := b.session.hangs || b.metadata.hangs || b.tags.hangs

theorem reachesTags_iff (b : Behaviour) :
    b.reachesTags = true ↔ b.session = .granted ∧ b.metadata.answers = true := by
  unfold reachesTags
  rcases hs : b.session with _ | _ | f | payload | _ <;>
    rcases ha : b.metadata with _ | f | payload | _ <;> simp [Act.answers]

theorem not_reachesTags {b : Behaviour} (h : b.session ≠ .granted) : b.reachesTags = false := by
  rcases hr : b.reachesTags with _ | _
  · rfl
  · exact absurd (b.reachesTags_iff.mp hr).1 h

end Behaviour

namespace Reconcile

/-- The task comes to a call that is as `grant` or `act` says: its request
for a session, its metadata call or its tag call. -/
def plays (change : Change) (b : Behaviour) (grant : Grant → Bool) (act : Act → Bool) : Bool :=
  (change.isMaterial && grant b.session) ||
    (change.isMaterial && decide (b.session = .granted) && act b.metadata) ||
    (change.isFirstBind && b.reachesTags && act b.tags)

def playsHang (change : Change) (b : Behaviour) : Bool := plays change b Grant.hangs Act.hangs

def playsPanic (change : Change) (b : Behaviour) : Bool := plays change b Grant.panics Act.panics

/-- The task is refused its session with an error. -/
def isRefused (change : Change) (b : Behaviour) : Bool := change.isMaterial && b.session.fails

/-- The task has nothing to tell, gets no session, or comes past all its
calls, be they answered with errors. -/
def completes (change : Change) (b : Behaviour) : Bool :=
  !change.isMaterial || decide (b.session = .unavailable) ||
    (b.reachesTags && (!change.isFirstBind || b.tags.answers))

/-- How the task of a change ends. -/
inductive Ends (change : Change) (b : Behaviour) : Ending → Prop where
  | skipped (hm : change.isMaterial = false) : Ends change b (.finished .skipped)
  | noSession (hm : change.isMaterial = true) (hs : b.session = .unavailable) :
      Ends change b (.finished .noSession)
  | refused {f : Failure} (hm : change.isMaterial = true) (hs : b.session = .fail f) :
      Ends change b (.sessionFailed f)
  | requestPanics {payload : Panic} (hm : change.isMaterial = true)
      (hs : b.session = .panic payload) : Ends change b (.panicked payload)
  | requestHangs (hm : change.isMaterial = true) (hs : b.session = .hang) : Ends change b .hung
  | metadataPanics {payload : Panic} (hm : change.isMaterial = true) (hs : b.session = .granted)
      (ha : b.metadata = .panic payload) : Ends change b (.panicked payload)
  | metadataHangs (hm : change.isMaterial = true) (hs : b.session = .granted)
      (ha : b.metadata = .hang) : Ends change b .hung
  | noTags {saved : Bool} (hm : change.isMaterial = true) (hr : b.reachesTags = true)
      (hf : change.isFirstBind = false) : Ends change b (.finished (.updated saved none))
  | tagsAnswered {saved synced : Bool} (hf : change.isFirstBind = true)
      (hr : b.reachesTags = true) (ha : b.tags.answers = true) :
      Ends change b (.finished (.updated saved (some synced)))
  | tagsPanic {payload : Panic} (hf : change.isFirstBind = true) (hr : b.reachesTags = true)
      (ha : b.tags = .panic payload) : Ends change b (.panicked payload)
  | tagsHang (hf : change.isFirstBind = true) (hr : b.reachesTags = true)
      (ha : b.tags = .hang) : Ends change b .hung

theorem ends_tagPhase (site : Site) {change : Change} (n : Nat) {b : Behaviour} (saved : Bool)
    (hm : change.isMaterial = true) (hr : b.reachesTags = true) :
    Ends change b (tagPhase site change n b.tags saved).ending := by
  unfold tagPhase
  by_cases hf : change.isFirstBind = true
  · rw [if_pos hf]
    rcases ha : b.tags with _ | f | payload | _
    · exact .tagsAnswered hf hr (by rw [ha]; rfl)
    · exact .tagsAnswered hf hr (by rw [ha]; rfl)
    · exact .tagsPanic hf hr ha
    · exact .tagsHang hf hr ha
  · rw [if_neg hf]
    exact .noTags hm hr (Bool.not_eq_true _ ▸ hf)

theorem ends_run (site : Site) (change : Change) (n : Nat) (b : Behaviour) :
    Ends change b (run site change n b).ending := by
  unfold run
  by_cases hm : change.isMaterial = true
  · rw [if_pos hm]
    rcases hs : b.session with _ | _ | f | payload | _
    · unfold metadataPhase
      rcases ha : b.metadata with _ | f | payload | _
      · exact ends_tagPhase site n true hm (by simp [Behaviour.reachesTags, hs, ha])
      · exact ends_tagPhase site n false hm (by simp [Behaviour.reachesTags, hs, ha])
      · exact .metadataPanics hm hs ha
      · exact .metadataHangs hm hs ha
    · exact .noSession hm hs
    · exact .refused hm hs
    · exact .requestPanics hm hs
    · exact .requestHangs hm hs
  · rw [if_neg hm]
    exact .skipped (Bool.not_eq_true _ ▸ hm)

/-- What a task plays says how it is counted, and whether it is. -/
theorem Ends.classified {change : Change} {b : Behaviour} {e : Ending} (h : Ends change b e) :
    decide (e = .hung) = playsHang change b ∧
    (e.report?.any fun r => r.1.isPanicked) = playsPanic change b ∧
    (e.report?.any fun r => r.1.isFailed) = isRefused change b ∧
    (e.report?.any fun r => r.1.isCompleted) = completes change b := by
  unfold playsHang playsPanic isRefused completes plays
  cases h with
  | skipped hm =>
    have hf : change.isFirstBind = false := by
      by_contra hf
      rw [Change.isMaterial_of_isFirstBind (Bool.not_eq_false _ ▸ hf)] at hm
      cases hm
    simp [Ending.report?, hm, hf, TaskReport.isCompleted, TaskReport.isFailed,
      TaskReport.isPanicked]
  | noSession hm hs | refused hm hs | requestPanics hm hs | requestHangs hm hs =>
    have hr := Behaviour.not_reachesTags (b := b) (by rw [hs]; simp)
    simp [Ending.report?, hm, hs, hr, Grant.hangs, Grant.panics, Grant.fails,
      TaskReport.isCompleted, TaskReport.isFailed, TaskReport.isPanicked]
  | metadataPanics hm hs ha | metadataHangs hm hs ha =>
    have hr : b.reachesTags = false := by
      simp [Behaviour.reachesTags, hs, ha]
    simp [Ending.report?, hm, hs, ha, hr, Grant.hangs, Grant.panics, Grant.fails, Act.hangs,
      Act.panics, TaskReport.isCompleted, TaskReport.isFailed, TaskReport.isPanicked]
  | noTags hm hr hf =>
    obtain ⟨hs, ha⟩ := b.reachesTags_iff.mp hr
    obtain ⟨hp, hh⟩ := Act.eq_false_of_answers ha
    simp [Ending.report?, hm, hs, hr, hf, hp, hh, Grant.hangs, Grant.panics, Grant.fails,
      TaskReport.isCompleted, TaskReport.isFailed, TaskReport.isPanicked]
  | tagsAnswered hf hr ha' =>
    have hm := Change.isMaterial_of_isFirstBind hf
    obtain ⟨hs, ha⟩ := b.reachesTags_iff.mp hr
    obtain ⟨hp, hh⟩ := Act.eq_false_of_answers ha
    obtain ⟨hp', hh'⟩ := Act.eq_false_of_answers ha'
    simp [Ending.report?, hm, hs, hr, hf, hp, hh, ha', hp', hh', Grant.hangs, Grant.panics,
      Grant.fails, TaskReport.isCompleted, TaskReport.isFailed, TaskReport.isPanicked]
  | tagsPanic hf hr ht =>
    have hm := Change.isMaterial_of_isFirstBind hf
    obtain ⟨hs, ha⟩ := b.reachesTags_iff.mp hr
    obtain ⟨hp, hh⟩ := Act.eq_false_of_answers ha
    have hpt : b.tags.panics = true := by rw [ht]; rfl
    have hht : b.tags.hangs = false := by rw [ht]; rfl
    have hat : b.tags.answers = false := by rw [ht]; rfl
    simp [Ending.report?, hm, hs, hr, hf, hp, hh, hpt, hht, hat, Grant.hangs, Grant.panics,
      Grant.fails, TaskReport.isCompleted, TaskReport.isFailed, TaskReport.isPanicked]
  | tagsHang hf hr ht =>
    have hm := Change.isMaterial_of_isFirstBind hf
    obtain ⟨hs, ha⟩ := b.reachesTags_iff.mp hr
    obtain ⟨hp, hh⟩ := Act.eq_false_of_answers ha
    have hpt : b.tags.panics = false := by rw [ht]; rfl
    have hht : b.tags.hangs = true := by rw [ht]; rfl
    have hat : b.tags.answers = false := by rw [ht]; rfl
    simp [Ending.report?, hm, hs, hr, hf, hp, hh, hpt, hht, hat, Grant.hangs, Grant.panics,
      Grant.fails]

theorem ending_eq_hung_iff (site : Site) (change : Change) (n : Nat) (b : Behaviour) :
    (run site change n b).ending = .hung ↔ playsHang change b = true := by
  rw [← (ends_run site change n b).classified.1, decide_eq_true_iff]

end Reconcile

end VolumeSync
