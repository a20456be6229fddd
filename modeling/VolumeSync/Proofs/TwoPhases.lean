import VolumeSync.Proofs.Accounting

-- The two phases of a task. A task gets one session or none, and with it
-- makes one call or two, always of the same descriptor. Which calls it makes,
-- what it notifies and how it ends follows from what becomes of the calls,
-- one after the other.

namespace VolumeSync

/-! ## What one call leads to -/

/-- The notifications of a call of this kind that goes this way: the error in
short, or the success of the tags. -/
inductive Act.Tells (resource : ObjectRef) : UpdateKind → Act → List Notice → Prop where
  | saved : Tells resource .metadata .succeed []
  | synced : Tells resource .tags .succeed [⟨resource, .normal, "Success"⟩]
  | failed (kind : UpdateKind) (f : Failure) :
      Tells resource kind (.fail f) [⟨resource, .warning, f.outermost⟩]
  | panicked (kind : UpdateKind) (payload : Panic) : Tells resource kind (.panic payload) []
  | hung (kind : UpdateKind) : Tells resource kind .hang []

/-- A call that is not answered leaves the task in this ending. -/
def Act.Leaves (act : Act) (ending : Ending) : Prop :=
  (∀ payload, act = .panic payload → ending = .panicked payload) ∧ (act = .hang → ending = .hung)

theorem Act.tells_about? (resource : ObjectRef) (kind : UpdateKind) (act : Act) :
    act.Tells resource kind (Notice.about? resource kind act).toList := by
  cases act with
  | succeed =>
    cases kind with
    | metadata => exact .saved
    | tags => exact .synced
  | fail f =>
    cases kind with
    | metadata => exact .failed .metadata f
    | tags => exact .failed .tags f
  | panic payload =>
    cases kind with
    | metadata => exact .panicked .metadata payload
    | tags => exact .panicked .tags payload
  | hang =>
    cases kind with
    | metadata => exact .hung .metadata
    | tags => exact .hung .tags

theorem Act.leaves_of_answers {act : Act} (h : act.answers = true) (ending : Ending) :
    act.Leaves ending := by
  constructor
  · rintro payload rfl
    cases h
  · rintro rfl
    cases h

theorem Act.leaves_panicked (payload : Panic) : (Act.panic payload).Leaves (.panicked payload) := by
  constructor
  · rintro payload' heq
    cases heq
    rfl
  · rintro heq
    cases heq

theorem Act.leaves_hung : Act.hang.Leaves .hung := by
  constructor
  · rintro payload heq
    cases heq
  · rintro _
    rfl

/-! ## Traces without the log -/

namespace Trace

/-- What is seen, but for the log. -/
def unlogged (t : Trace) : Trace := t.filter fun effect => effect.line?.isNone

theorem unlogged_append (s t : Trace) : unlogged (s ++ t) = unlogged s ++ unlogged t :=
  List.filter_append ..

theorem calls_unlogged (t : Trace) : t.unlogged.calls = t.calls := by
  unfold unlogged calls
  rw [List.filterMap_filter]
  refine List.filterMap_congr fun effect _ => ?_
  cases effect <;> rfl

theorem notices_unlogged (t : Trace) : t.unlogged.notices = t.notices := by
  unfold unlogged notices
  rw [List.filterMap_filter]
  refine List.filterMap_congr fun effect _ => ?_
  cases effect <;> rfl

/-- One phase: the call, and what is notified of it. -/
def phase (call : Call) (told : List Notice) : Trace := .called call :: told.map .notified

theorem calls_phase (call : Call) (told : List Notice) : (phase call told).calls = [call] := by
  induction told with
  | nil => rfl
  | cons notice rest ih => exact ih

theorem notices_phase (call : Call) (told : List Notice) : (phase call told).notices = told := by
  induction told with
  | nil => rfl
  | cons notice rest ih => exact congrArg (notice :: ·) ih

end Trace

namespace Reconcile

/-- The tag call is due: the metadata call was answered, be it with an error,
and the volume was seen before without being bound and is bound now. -/
def TagsDue (change : Change) (b : Behaviour) : Prop :=
  b.metadata.answers = true ∧
    ∃ old, change.old = some old ∧ old.phase ≠ .bound ∧ change.new.phase = .bound

theorem tagsDue_iff (change : Change) (b : Behaviour) :
    TagsDue change b ↔ (change.isFirstBind && b.metadata.answers) = true := by
  unfold TagsDue
  rw [Bool.and_eq_true, Change.isFirstBind_iff]
  exact And.comm

/-! ## The phases -/

section Phases

variable (site : Site) (change : Change) (n : Nat) (b : Behaviour)

/-- What is seen of one call of the task, the log left out. -/
def seen (kind : UpdateKind) : Trace :=
  .phase ⟨n, kind, site.describe change.new⟩
    (Notice.about? change.new.objectRef kind (b.act kind)).toList

theorem unlogged_tagPhase (saved : Bool) :
    (tagPhase site change n b.tags saved).trace.unlogged =
      if change.isFirstBind then seen site change n b .tags else [] := by
  obtain ⟨session, metadata, tags⟩ := b
  unfold tagPhase seen
  by_cases hf : change.isFirstBind = true
  · rw [if_pos hf, if_pos hf]
    cases tags <;> rfl
  · rw [if_neg hf, if_neg hf]
    rfl

theorem unlogged_metadataPhase :
    (metadataPhase site change n b).trace.unlogged = seen site change n b .metadata ++
      if change.isFirstBind && b.metadata.answers then seen site change n b .tags else [] := by
  have htags := unlogged_tagPhase site change n b
  obtain ⟨session, metadata, tags⟩ := b
  unfold metadataPhase
  -- Both answers go on to the tag phase; a call without one is the last.
  cases metadata with
  | succeed =>
    simp only [TaskRun.after, Trace.unlogged_append, htags, Act.answers, Bool.and_true]
    rfl
  | fail f =>
    simp only [TaskRun.after, Trace.unlogged_append, htags, Act.answers, Bool.and_true]
    rfl
  | panic payload =>
    simp only [Act.answers, Bool.and_false]
    rfl
  | hang =>
    simp only [Act.answers, Bool.and_false]
    rfl

theorem leaves_tagPhase (saved : Bool) :
    ∀ call ∈ (tagPhase site change n b.tags saved).trace.calls,
      (b.act call.kind).Leaves (tagPhase site change n b.tags saved).ending := by
  obtain ⟨session, metadata, tags⟩ := b
  intro call hcall
  rw [calls_tagPhase] at hcall
  unfold tagPhase
  by_cases hf : change.isFirstBind = true
  · rw [if_pos hf] at hcall ⊢
    obtain rfl := List.mem_singleton.mp hcall
    cases tags with
    | succeed => exact Act.leaves_of_answers rfl _
    | fail f => exact Act.leaves_of_answers rfl _
    | panic payload => exact Act.leaves_panicked payload
    | hang => exact Act.leaves_hung
  · rw [if_neg hf] at hcall
    cases hcall

/-- A call that is answered before a run changes nothing about how the run's own
calls leave it. -/
theorem leaves_after {b : Behaviour} {call : Call} {before : Trace} {r : TaskRun}
    (hcalls : before.calls = [call]) (hanswered : (b.act call.kind).answers = true)
    (h : ∀ c ∈ r.trace.calls, (b.act c.kind).Leaves r.ending) :
    ∀ c ∈ (r.after before).trace.calls, (b.act c.kind).Leaves (r.after before).ending := by
  intro c hc
  rw [TaskRun.after, Trace.calls_append, hcalls] at hc
  rcases List.mem_append.mp hc with hc | hc
  · obtain rfl := List.mem_singleton.mp hc
    exact Act.leaves_of_answers hanswered _
  · exact h c hc

theorem leaves_metadataPhase :
    ∀ call ∈ (metadataPhase site change n b).trace.calls,
      (b.act call.kind).Leaves (metadataPhase site change n b).ending := by
  have htags := leaves_tagPhase site change n b
  obtain ⟨session, metadata, tags⟩ := b
  unfold metadataPhase
  cases metadata with
  | succeed => exact leaves_after rfl rfl (htags true)
  | fail f => exact leaves_after rfl rfl (htags false)
  | panic payload =>
    intro call hcall
    obtain rfl := List.mem_singleton.mp hcall
    exact Act.leaves_panicked payload
  | hang =>
    intro call hcall
    obtain rfl := List.mem_singleton.mp hcall
    exact Act.leaves_hung

/-- Tags that are answered, or not sent, do not keep the task from its end. -/
theorem outcome_tagPhase (saved : Bool) (h : change.isFirstBind = true → b.tags.answers = true) :
    (tagPhase site change n b.tags saved).ending = .finished (.updated saved
      (if change.isFirstBind then some (decide (b.tags = .succeed)) else none)) := by
  unfold tagPhase
  by_cases hf : change.isFirstBind = true
  · have hanswered := h hf
    rw [if_pos hf, if_pos hf]
    rcases htags : b.tags with _ | f | payload | _
    · rfl
    · rfl
    · rw [htags] at hanswered
      cases hanswered
    · rw [htags] at hanswered
      cases hanswered
  · rw [if_neg hf, if_neg hf]

theorem outcome_metadataPhase (hmetadata : b.metadata.answers = true)
    (htags : change.isFirstBind = true → b.tags.answers = true) :
    (metadataPhase site change n b).ending = .finished (.updated (decide (b.metadata = .succeed))
      (if change.isFirstBind then some (decide (b.tags = .succeed)) else none)) := by
  unfold metadataPhase
  rcases hact : b.metadata with _ | f | payload | _
  · exact outcome_tagPhase site change n b true htags
  · exact outcome_tagPhase site change n b false htags
  · rw [hact] at hmetadata
    cases hmetadata
  · rw [hact] at hmetadata
    cases hmetadata

end Phases

/-! ## The law -/

/-- The task does for its change, with the session of this number, what a
provider of this behaviour brings it to. -/
structure KeepsToPhases (site : Site) (change : Change) (n : Nat) (b : Behaviour) (r : TaskRun) :
    Prop where
  /-- A change that the provider need not hear of is not told. -/
  skips : change.isMaterial = false → r.trace = [] ∧ r.ending = .finished .skipped
  asks : change.isMaterial = true → r.trace.requests = [n]
  /-- Without a session there is nothing else to be seen of the task. -/
  unserved : change.isMaterial = true → b.session ≠ .granted → r.trace = [.requested n]
  noSession : change.isMaterial = true → b.session = .unavailable →
    r.ending = .finished .noSession
  refused : ∀ f, change.isMaterial = true → b.session = .fail f →
    r.ending.report? =
      some (.failed ("Provider session error: " ++ f.outermost), [.noSession f])
  requestPanics : ∀ payload, change.isMaterial = true → b.session = .panic payload →
    r.ending = .panicked payload
  requestHangs : change.isMaterial = true → b.session = .hang → r.ending = .hung
  /-- No call is made twice, and the tags are sent with what the metadata
  said. -/
  calls : change.isMaterial = true → b.session = .granted →
    let metadata : Call := ⟨n, .metadata, site.describe change.new⟩
    let tags : Call := ⟨n, .tags, site.describe change.new⟩
    TagsDue change b ∧ r.trace.calls = [metadata, tags] ∨
      ¬TagsDue change b ∧ r.trace.calls = [metadata]
  /-- What is notified of a call is notified right after it. -/
  notices : change.isMaterial = true → b.session = .granted →
    let metadata : Call := ⟨n, .metadata, site.describe change.new⟩
    let tags : Call := ⟨n, .tags, site.describe change.new⟩
    ∃ first, b.metadata.Tells change.new.objectRef .metadata first ∧
      (TagsDue change b → ∃ second, b.tags.Tells change.new.objectRef .tags second ∧
        r.trace.notices = first ++ second ∧
        r.trace.unlogged =
          .requested n :: (Trace.phase metadata first ++ Trace.phase tags second)) ∧
      (¬TagsDue change b → r.trace.notices = first ∧
        r.trace.unlogged = .requested n :: Trace.phase metadata first)
  /-- A call that is not answered ends the task. -/
  leaves : ∀ call ∈ r.trace.calls, (b.act call.kind).Leaves r.ending
  updated : change.isMaterial = true → b.session = .granted →
    (∀ call ∈ r.trace.calls, (b.act call.kind).answers = true) →
    ∃ saved synced, r.ending = .finished (.updated saved synced) ∧
      (saved = true ↔ b.metadata = .succeed) ∧ (synced = none ↔ ¬TagsDue change b) ∧
      (synced = some true ↔ TagsDue change b ∧ b.tags = .succeed)

section Run

variable {site : Site} {change : Change} {n : Nat} {b : Behaviour}

theorem trace_run_of_not_granted (hm : change.isMaterial = true) (hs : b.session ≠ .granted) :
    (run site change n b).trace = [.requested n] := by
  rw [run, if_pos hm]
  rcases hsession : b.session with _ | _ | f | payload | _
  · exact absurd hsession hs
  · rfl
  · rfl
  · rfl
  · rfl

/-- Only a task with a session makes calls. -/
theorem granted_of_mem_calls {call : Call} (h : call ∈ (run site change n b).trace.calls) :
    change.isMaterial = true ∧ b.session = .granted := by
  rcases hm : change.isMaterial with _ | _
  · rw [run_of_not_material site n b hm] at h
    cases h
  · by_contra hs
    rw [trace_run_of_not_granted hm fun hgranted => hs ⟨rfl, hgranted⟩] at h
    cases h

theorem run_of_granted (hm : change.isMaterial = true) (hs : b.session = .granted) :
    run site change n b = (metadataPhase site change n b).after [.requested n] := by
  rw [run, if_pos hm, hs]

theorem unlogged_run (hm : change.isMaterial = true) (hs : b.session = .granted) :
    (run site change n b).trace.unlogged = .requested n :: (seen site change n b .metadata ++
      if change.isFirstBind && b.metadata.answers then seen site change n b .tags else []) := by
  rw [run_of_granted hm hs]
  exact congrArg (.requested n :: ·) (unlogged_metadataPhase site change n b)

theorem calls_run (hm : change.isMaterial = true) (hs : b.session = .granted) :
    (run site change n b).trace.calls = ⟨n, .metadata, site.describe change.new⟩ ::
      if change.isFirstBind && b.metadata.answers then [⟨n, .tags, site.describe change.new⟩]
      else [] := by
  rw [← Trace.calls_unlogged, unlogged_run hm hs]
  change Trace.calls (_ ++ _) = _
  rw [Trace.calls_append, seen, Trace.calls_phase]
  split
  · rw [seen, Trace.calls_phase]
    rfl
  · rfl

theorem notices_run (hm : change.isMaterial = true) (hs : b.session = .granted) :
    (run site change n b).trace.notices =
      (Notice.about? change.new.objectRef .metadata b.metadata).toList ++
        if change.isFirstBind && b.metadata.answers then
          (Notice.about? change.new.objectRef .tags b.tags).toList
        else [] := by
  rw [← Trace.notices_unlogged, unlogged_run hm hs]
  change Trace.notices (_ ++ _) = _
  rw [Trace.notices_append, seen, Trace.notices_phase]
  split
  · rw [seen, Trace.notices_phase]
    rfl
  · rfl

/-- A call that is not answered is the last one of the task. -/
theorem leaves_run :
    ∀ call ∈ (run site change n b).trace.calls,
      (b.act call.kind).Leaves (run site change n b).ending := by
  intro call hcall
  obtain ⟨hm, hs⟩ := granted_of_mem_calls hcall
  rw [run_of_granted hm hs] at hcall ⊢
  exact leaves_metadataPhase site change n b call hcall

theorem updated_run (hm : change.isMaterial = true) (hs : b.session = .granted)
    (hanswered : ∀ call ∈ (run site change n b).trace.calls, (b.act call.kind).answers = true) :
    ∃ saved synced, (run site change n b).ending = .finished (.updated saved synced) ∧
      (saved = true ↔ b.metadata = .succeed) ∧ (synced = none ↔ ¬TagsDue change b) ∧
      (synced = some true ↔ TagsDue change b ∧ b.tags = .succeed) := by
  have hmetadata : b.metadata.answers = true := by
    refine hanswered ⟨n, .metadata, site.describe change.new⟩ ?_
    rw [calls_run hm hs]
    exact List.mem_cons_self
  have hdue : TagsDue change b ↔ change.isFirstBind = true := by
    rw [tagsDue_iff, hmetadata, Bool.and_true]
  have htags : change.isFirstBind = true → b.tags.answers = true := by
    intro hf
    refine hanswered ⟨n, .tags, site.describe change.new⟩ ?_
    rw [calls_run hm hs, hf, hmetadata]
    exact List.mem_cons_of_mem _ List.mem_cons_self
  rw [run_of_granted hm hs]
  refine ⟨_, _, outcome_metadataPhase site change n b hmetadata htags, decide_eq_true_iff, ?_, ?_⟩
  · rw [hdue]
    by_cases hf : change.isFirstBind = true
    · simp [hf]
    · simp [hf]
  · rw [hdue]
    by_cases hf : change.isFirstBind = true
    · simp [hf]
    · simp [hf]

end Run

/-- Whatever the change and whatever the provider does, a task that has
something to tell asks for one session and makes the metadata call, and at a
first bind the tag call after it, if the first one was answered. Each call is
made once and told as it went; one that is not answered is the end. -/
theorem a_task_keeps_to_its_phases (site : Site) (change : Change) (n : Nat) (b : Behaviour) :
    KeepsToPhases site change n b (run site change n b) where
  skips hm := by
    rw [run_of_not_material site n b hm]
    exact ⟨rfl, rfl⟩
  asks hm := by rw [requests_run, if_pos hm]
  unserved hm hs := trace_run_of_not_granted hm hs
  noSession hm hs := by rw [run, if_pos hm, hs]
  refused f hm hs := by
    rw [run, if_pos hm, hs]
    rfl
  requestPanics payload hm hs := by rw [run, if_pos hm, hs]
  requestHangs hm hs := by rw [run, if_pos hm, hs]
  calls hm hs := by
    by_cases hdue : TagsDue change b
    · refine .inl ⟨hdue, ?_⟩
      rw [calls_run hm hs, if_pos ((tagsDue_iff change b).mp hdue)]
    · refine .inr ⟨hdue, ?_⟩
      rw [calls_run hm hs, if_neg (mt (tagsDue_iff change b).mpr hdue)]
  notices hm hs := by
    refine ⟨_, b.metadata.tells_about? change.new.objectRef .metadata, ?_, ?_⟩
    · intro hdue
      refine ⟨_, b.tags.tells_about? change.new.objectRef .tags, ?_, ?_⟩
      · rw [notices_run hm hs, if_pos ((tagsDue_iff change b).mp hdue)]
      · rw [unlogged_run hm hs, if_pos ((tagsDue_iff change b).mp hdue)]
        rfl
    · intro hdue
      constructor
      · rw [notices_run hm hs, if_neg (mt (tagsDue_iff change b).mpr hdue), List.append_nil]
      · rw [unlogged_run hm hs, if_neg (mt (tagsDue_iff change b).mpr hdue), List.append_nil]
        rfl
  leaves := leaves_run
  updated hm hs hanswered := updated_run hm hs hanswered

end Reconcile

end VolumeSync
