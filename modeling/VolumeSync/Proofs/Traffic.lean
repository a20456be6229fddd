import VolumeSync.Proofs.AnyOrder
import VolumeSync.Proofs.Isolation
import VolumeSync.Proofs.LastSent

-- What reaches the provider. Every call is caused by a change of a volume
-- of the watcher's own driver, and what it carries describes that volume: a
-- tombstone if the volume is released, else everything that is known of it.
-- No attribute that a user puts on a volume can make it look otherwise. Tags
-- go to a volume that is bound, right after its metadata.

namespace VolumeSync

/-! ## Descriptors that are whole -/

/-- The site of a watcher that is set up with these names: it knows one
driver, and the type of its volumes. -/
def Site.ofNames (provisioner volumeType providerType : String) : Site :=
  ⟨provisioner, providerType, .single provisioner volumeType⟩

/-- The descriptor says of the volume what the provider is to be told by a
watcher of this provisioner that knows its volumes by this type. -/
structure Descriptor.Tells (provisioner volumeType providerType : String) (s : Snapshot)
    (d : Descriptor) : Prop where
  type : d.volumeType = volumeType
  provider : d.provider = providerType
  id : d.volumeId = s.volumeHandle
  ours : s.driver = some provisioner
  deleted : d.status? = some Descriptor.deleted ↔ s.phase = .released
  bare : d.tags = [] ↔ s.phase = .released
  capacity : d.capacity = none ↔ s.phase = .released
  iops : d.iops = none ↔ s.phase = .released
  suffix : d.isTombstone = false → 7 ≤ d.tags.length ∧
    ∃ driver, s.driver = some driver ∧ d.tags.getLast? = some ("provisioner:" ++ driver)

/-- The call may come of the change, where `own` are the calls of its
session: it tells of the volume as it is now, and one that sends tags does so
for a bound volume and comes right after a metadata call that told the same. -/
structure Call.Sound (provisioner volumeType providerType : String) (change : Change)
    (own : List Call) (call : Call) : Prop where
  tells : call.volume.Tells provisioner volumeType providerType change.new
  tags : call.kind = .tags → call.volume.isTombstone = false ∧ change.new.phase = .bound ∧
    own = [{ call with kind := .metadata }, call]

/-- However the user's own tags are written, the derived ones come last. -/
theorem Snapshot.getLast?_tags (s : Snapshot) (provisioner : String) :
    (s.tags provisioner).getLast? = some ("provisioner:" ++ provisioner) := by
  unfold tags
  rw [List.getLast?_append]
  rfl

theorem Snapshot.seven_le_length_tags (s : Snapshot) (provisioner : String) :
    7 ≤ (s.tags provisioner).length := by
  unfold tags
  rw [List.length_append, length_derivedTags]
  exact Nat.le_add_left 7 _

namespace Site

/-- Which volume it is, and of which kind, is told in every phase. -/
theorem describe_identity (site : Site) (s : Snapshot) :
    (site.describe s).volumeId = s.volumeHandle ∧
      (site.describe s).provider = site.providerType ∧
      (site.describe s).volumeType = site.volumeTypes.typeOf s.driver := by
  unfold describe
  split
  · exact ⟨rfl, rfl, rfl⟩
  · exact ⟨rfl, rfl, rfl⟩

theorem describe_of_released (site : Site) {s : Snapshot} (h : s.phase = .released) :
    (site.describe s).tags = [] ∧ (site.describe s).capacity = none ∧
      (site.describe s).iops = none := by
  unfold describe
  rw [h]
  exact ⟨rfl, rfl, rfl⟩

theorem describe_of_not_released (site : Site) {s : Snapshot} (h : s.phase ≠ .released) :
    (site.describe s).tags = s.tags site.provisioner ∧
      (site.describe s).capacity = some (wholeGibibytes s.bytes) ∧
      (site.describe s).iops = some (s.iops?.getD "") := by
  have hr : ¬ s.phase.isReleased = true := fun hr => h ((Phase.isReleased_iff _).mp hr)
  unfold describe
  rw [if_neg hr]
  exact ⟨rfl, rfl, rfl⟩

/-- An attribute of the volume that is named like the status does not make it
a tombstone, and neither does a phase that only reads like the released one. -/
theorem status?_describe_eq_deleted_iff (site : Site) (s : Snapshot) :
    (site.describe s).status? = some Descriptor.deleted ↔ s.phase = .released := by
  rw [status?_describe, ← Phase.isReleased_iff]
  rcases s.phase.isReleased with _ | _
  · decide
  · decide

theorem isTombstone_describe (site : Site) (s : Snapshot) :
    (site.describe s).isTombstone = true ↔ s.phase = .released := by
  unfold Descriptor.isTombstone
  rw [beq_iff_eq, status?_describe_eq_deleted_iff]

/-- What a site says of a volume of its own driver is whole. -/
theorem tells_describe (site : Site) {s : Snapshot} (hours : s.driver = some site.provisioner) :
    (site.describe s).Tells site.provisioner (site.volumeTypes.typeOf s.driver)
      site.providerType s := by
  obtain ⟨hid, hprovider, htype⟩ := site.describe_identity s
  have hdeleted := site.status?_describe_eq_deleted_iff s
  by_cases hr : s.phase = .released
  · obtain ⟨htags, hcapacity, hiops⟩ := site.describe_of_released hr
    refine ⟨htype, hprovider, hid, hours, hdeleted, iff_of_true htags hr,
      iff_of_true hcapacity hr, iff_of_true hiops hr, ?_⟩
    intro hnot
    rw [(site.isTombstone_describe s).mpr hr] at hnot
    cases hnot
  · obtain ⟨htags, hcapacity, hiops⟩ := site.describe_of_not_released hr
    have hlen := s.seven_le_length_tags site.provisioner
    refine ⟨htype, hprovider, hid, hours, hdeleted, iff_of_false ?_ hr, iff_of_false ?_ hr,
      iff_of_false ?_ hr, ?_⟩
    · rw [htags]
      exact List.ne_nil_of_length_pos (Nat.lt_of_lt_of_le (by decide) hlen)
    · rw [hcapacity]
      exact Option.some_ne_none _
    · rw [hiops]
      exact Option.some_ne_none _
    · intro _
      rw [htags]
      exact ⟨hlen, site.provisioner, hours, s.getLast?_tags site.provisioner⟩

/-- A site that is set up with these names knows the type of each volume of
its own. -/
theorem typeOf_ofNames {provisioner : String} (volumeType providerType : String) {s : Snapshot}
    (hours : s.driver = some provisioner) :
    (ofNames provisioner volumeType providerType).volumeTypes.typeOf s.driver = volumeType := by
  rw [hours]
  simp [ofNames, VolumeTypes.single]

end Site

/-! ## The calls of one task -/

namespace Reconcile

theorem calls_tagPhase (site : Site) (change : Change) (n : Nat) (act : Act) (saved : Bool) :
    (tagPhase site change n act saved).trace.calls =
      if change.isFirstBind then [⟨n, .tags, site.describe change.new⟩] else [] := by
  unfold tagPhase
  split
  · cases act <;> rfl
  · rfl

/-- A task makes no call, or the metadata call alone, or at a first bind the
metadata call and then the tag call. -/
theorem calls_run_cases (site : Site) (change : Change) (n : Nat) (b : Behaviour) :
    let calls := (run site change n b).trace.calls
    let metadata : Call := ⟨n, .metadata, site.describe change.new⟩
    let tags : Call := ⟨n, .tags, site.describe change.new⟩
    calls = [] ∨ calls = [metadata] ∨
      (change.isFirstBind = true ∧ calls = [metadata, tags]) := by
  intro calls metadata tags
  have hphase : ∀ saved, [metadata] ++ (tagPhase site change n b.tags saved).trace.calls =
      [metadata] ∨ (change.isFirstBind = true ∧
        [metadata] ++ (tagPhase site change n b.tags saved).trace.calls = [metadata, tags]) := by
    intro saved
    rw [calls_tagPhase]
    by_cases hf : change.isFirstBind = true
    · rw [if_pos hf]
      exact Or.inr ⟨hf, rfl⟩
    · rw [if_neg hf]
      exact Or.inl rfl
  by_cases hm : change.isMaterial = true
  · rcases hs : b.session with _ | _ | f | payload | _
    · have hcalls : calls = (metadataPhase site change n b).trace.calls := by
        simp only [calls, run, if_pos hm, hs, TaskRun.after, Trace.calls_append]
        rfl
      rw [hcalls]
      unfold metadataPhase
      rcases b.metadata with _ | f | payload | _
      · simp only [TaskRun.after, Trace.calls_append]
        exact Or.inr (hphase true)
      · simp only [TaskRun.after, Trace.calls_append]
        exact Or.inr (hphase false)
      · exact Or.inr (Or.inl rfl)
      · exact Or.inr (Or.inl rfl)
    all_goals
      left
      simp only [calls, run, if_pos hm, hs]
      rfl
  · left
    simp only [calls, run, if_neg hm]
    rfl

/-- As far as the calls of a task of the site's own are made, each of them is
sound. -/
theorem sound_of_mem_calls {site : Site} {change : Change}
    (hours : change.new.driver = some site.provisioner) (n : Nat) (b : Behaviour)
    {own : List Call} (hown : own <+: (run site change n b).trace.calls) {call : Call}
    (hcall : call ∈ own) :
    call.Sound site.provisioner (site.volumeTypes.typeOf change.new.driver) site.providerType
      change own := by
  have htells := site.tells_describe hours
  have hmetadata : ∀ {c : Call}, c = ⟨n, .metadata, site.describe change.new⟩ →
      c.Sound site.provisioner (site.volumeTypes.typeOf change.new.driver) site.providerType
        change own := by
    rintro c rfl
    exact ⟨htells, fun hkind => by cases hkind⟩
  rcases calls_run_cases site change n b with hnone | hone | ⟨hfirst, htwo⟩
  · rw [hnone, List.prefix_nil] at hown
    rw [hown] at hcall
    cases hcall
  · rw [hone] at hown
    exact hmetadata (List.mem_singleton.mp (hown.subset hcall))
  · rw [htwo] at hown
    rcases List.mem_cons.mp (hown.subset hcall) with hc | hc
    · exact hmetadata hc
    · obtain rfl := List.mem_singleton.mp hc
      obtain ⟨_, _, _, hbound⟩ := (Change.isFirstBind_iff change).mp hfirst
      refine ⟨htells, fun _ => ⟨?_, hbound, ?_⟩⟩
      · rw [← Bool.not_eq_true, Site.isTombstone_describe, hbound]
        exact Phase.noConfusion
      -- The tag call is the last of the two, so none of them is missing.
      · refine hown.eq_of_length_le ?_
        rcases own with _ | ⟨x, _ | ⟨y, rest⟩⟩
        · cases hcall
        · obtain ⟨hx, _⟩ := List.cons_prefix_cons.mp hown
          rw [← List.mem_singleton.mp hcall] at hx
          cases hx
        · simp

end Reconcile

/-! ## The calls of a run on one thread -/

namespace Supervisor

/-- The change whose task asks for the session with this number: of the
changes that get a task the material ones ask, one after the other. -/
def askedBy (site : Site) (events : List Change) (session : Nat) : Option Change :=
  ((admitted site events).filter Change.isMaterial)[session]?

section Tasks

variable {site : Site} {script : Script}

/-- A task that makes a call is the task of the change that asks for the
session of the call. -/
theorem asked_of_mem_calls {n : Nat} {changes : List Change} {r : TaskRun}
    (hr : r ∈ tasks site script n changes) {call : Call} (hcall : call ∈ r.trace.calls) :
    ∃ k change, call.session = n + k ∧ (changes.filter Change.isMaterial)[k]? = some change ∧
      r = Reconcile.run site change call.session (script.play call.session) := by
  induction changes generalizing n with
  | nil => cases hr
  | cons change rest ih =>
    rw [tasks] at hr
    by_cases hm : change.isMaterial = true
    · rw [if_pos hm] at hr
      rw [List.filter_cons_of_pos hm]
      rcases List.mem_cons.mp hr with rfl | hr
      · have hsession := Reconcile.requests_of_mem_calls site change n (script.play n) hcall
        rw [Reconcile.requests_run, if_pos hm] at hsession
        obtain rfl := (List.cons.inj hsession).1
        exact ⟨0, change, rfl, rfl, rfl⟩
      · obtain ⟨k, asker, hk, hget, hrun⟩ := ih hr
        exact ⟨k + 1, asker, by omega, hget, hrun⟩
    · rw [if_neg hm] at hr
      rw [List.filter_cons_of_neg hm]
      rcases List.mem_cons.mp hr with rfl | hr
      · rw [Reconcile.run_of_not_material site n _ (Bool.not_eq_true _ ▸ hm)] at hcall
        cases hcall
      · exact ih hr

/-- No two tasks make calls of one session. -/
theorem pairwise_session_ne (site : Site) (script : Script) (n : Nat) (changes : List Change) :
    (tasks site script n changes).Pairwise fun r later =>
      ∀ call ∈ r.trace.calls, ∀ other ∈ later.trace.calls, call.session ≠ other.session := by
  induction changes generalizing n with
  | nil => exact List.Pairwise.nil
  | cons change rest ih =>
    refine List.pairwise_cons.mpr ⟨?_, ih _⟩
    intro later hlater call hcall other hother
    have hsession := Reconcile.requests_of_mem_calls site change n (script.play n) hcall
    rw [Reconcile.requests_run] at hsession
    by_cases hm : change.isMaterial = true
    · rw [if_pos hm] at hsession hlater
      obtain ⟨k, _, hk, _⟩ := asked_of_mem_calls hlater hother
      have hn := (List.cons.inj hsession).1
      omega
    · rw [if_neg hm] at hsession
      cases hsession

/-- Of the calls of tasks that have no session in common, those of one
session are those of its task. -/
theorem filter_calls_of_mem {runs : List TaskRun}
    (hown : ∀ r ∈ runs, ∀ call ∈ r.trace.calls, r.trace.requests = [call.session])
    (happart : runs.Pairwise fun r later =>
      ∀ call ∈ r.trace.calls, ∀ other ∈ later.trace.calls, call.session ≠ other.session)
    {r : TaskRun} (hr : r ∈ runs) {call : Call} (hcall : call ∈ r.trace.calls) :
    (runs.flatMap (·.trace.calls)).filter (fun c => decide (c.session = call.session)) =
      r.trace.calls := by
  obtain ⟨before, later, rfl⟩ := List.mem_iff_append.mp hr
  obtain ⟨_, hrest, hbefore⟩ := List.pairwise_append.mp happart
  have hlater := (List.pairwise_cons.mp hrest).1
  -- Tasks that make no call of the session have none to be kept.
  have hnone : ∀ xs : List TaskRun,
      (∀ x ∈ xs, ∀ c ∈ x.trace.calls, c.session ≠ call.session) →
      (xs.flatMap (·.trace.calls)).filter (fun c => decide (c.session = call.session)) = [] := by
    intro xs hxs
    refine List.filter_eq_nil_iff.mpr fun c hc => ?_
    obtain ⟨x, hx, hcx⟩ := List.mem_flatMap.mp hc
    simpa using hxs x hx c hcx
  have hall : r.trace.calls.filter (fun c => decide (c.session = call.session)) =
      r.trace.calls := by
    refine List.filter_eq_self.mpr fun c hc => ?_
    have hsame := (hown r hr c hc).symm.trans (hown r hr call hcall)
    simpa using hsame
  rw [List.flatMap_append, List.flatMap_cons, List.filter_append, List.filter_append,
    hnone before fun x hx c hcx => hbefore x hx r List.mem_cons_self c hcx call hcall,
    hnone later fun x hx c hcx => (hlater x hx call hcall c hcx).symm, hall, List.nil_append,
    List.append_nil]

end Tasks

/-! ## The law -/

/-- Whatever the names that a watcher is set up with, every call that it
makes is sound. On one thread each call comes of the change that asked for
its session: the calls of that session are those of the task of the change,
and they tell of the volume as the change leaves it. In any order of moves,
and whatever the provider does, each call comes of the change with the
ticket that it is seen under. -/
theorem every_call_is_sound (provisioner volumeType providerType : String)
    (ceiling : Option Nat) :
    let site := Site.ofNames provisioner volumeType providerType
    (∀ (script : Script) (events : List Change) (endless : Bool),
      (ceiling.getD 0 ≤ maxPermits →
        ∃ result, run site script ceiling events endless = .ok result) ∧
      ∀ result, run site script ceiling events endless = .ok result →
        ∀ call ∈ result.trace.calls,
          let own := result.trace.calls.filter fun c => decide (c.session = call.session)
          ∃ change, askedBy site events call.session = some change ∧
            own = (Reconcile.run site change call.session
              (script.play call.session)).trace.calls ∧
            call.Sound provisioner volumeType providerType change own) ∧
    ∀ (provider : Provider) (feed : Feed) (p : Pool), Pool.Reachable site provider feed ceiling p →
      ∀ ticket call, (ticket, Effect.called call) ∈ p.trace →
        ∃ change, feed ticket = some change ∧
          call.Sound provisioner volumeType providerType change (p.traceOf ticket).calls := by
  intro site
  have hsound : ∀ change : Change,
      Snapshot.comesFrom site.provisioner (some change.new) = true → ∀ n b own,
      own <+: (Reconcile.run site change n b).trace.calls → ∀ {call}, call ∈ own →
      call.Sound provisioner volumeType providerType change own := by
    intro change hours n b own hown call hcall
    have hdriver := (Snapshot.comesFrom_iff _ _).mp hours
    rw [← Site.typeOf_ofNames volumeType providerType hdriver]
    exact Reconcile.sound_of_mem_calls hdriver n b hown hcall
  refine ⟨?_, ?_⟩
  · intro script events endless
    refine ⟨fun hle => ⟨_, run_eq_inTurn site script ceiling events endless hle⟩, ?_⟩
    intro result hrun call hcall own
    have hle := le_of_run_ok hrun
    rw [run_eq_inTurn site script ceiling events endless hle] at hrun
    obtain rfl := Except.ok.inj hrun
    have hcut := performed_isPrefix ceiling (tasks site script 0 (admitted site events))
    have hcalls : (inTurn site script ceiling events endless).trace.calls =
        (performed ceiling (tasks site script 0 (admitted site events))).flatMap (·.trace.calls) :=
      TaskRun.calls_flatMap_watched _
    rw [hcalls] at hcall
    obtain ⟨r, hr, hcall⟩ := List.mem_flatMap.mp hcall
    have hown : own = r.trace.calls := by
      simp only [own, hcalls]
      refine filter_calls_of_mem ?_ ?_ hr hcall
      · intro x hx
        exact requests_of_mem_tasks (hcut.subset hx)
      · exact (pairwise_session_ne site script 0 _).sublist hcut.sublist
    obtain ⟨k, change, hk, hget, hrun⟩ := asked_of_mem_calls (hcut.subset hr) hcall
    rw [Nat.zero_add] at hk
    have hours := (List.mem_filter.mp (List.mem_filter.mp (List.mem_of_getElem? hget)).1).2
    have hself := congrArg (·.trace.calls) hrun
    rw [hown]
    refine ⟨change, ?_, hself, ?_⟩
    · rw [askedBy, hk]
      exact hget
    · exact hsound change hours call.session (script.play call.session) _
        (hself ▸ List.prefix_refl _) hcall
  · intro provider feed p hp ticket call hmem
    have hseen := Pool.mem_traceOf.mpr hmem
    obtain ⟨change, session, hfeed, hours, hcut⟩ :=
      Pool.exists_traceOf_isPrefix hp (List.ne_nil_of_mem hseen)
    refine ⟨change, hfeed, ?_⟩
    have hown : (p.traceOf ticket).calls <+:
        (Reconcile.run site change session (provider ticket session)).trace.calls := by
      rw [← TaskRun.calls_watched]
      exact hcut.filterMap _
    refine hsound change hours session (provider ticket session) _ hown ?_
    exact List.mem_filterMap.mpr ⟨_, hseen, rfl⟩

/-- A volume is marked as deleted by its user and binds: both calls of its
task say that it exists, and they name its driver behind the user's tags. -/
theorem a_forged_status_is_not_told :
    let seen : Snapshot := { Snapshot.blank with
      driver := some "d", attributes := .ofList [("status", "deleted"), ("tags", "a,b")] }
    ∃ result call, run (.ofNames "d" "t" "p") [] (some 1)
        [⟨none, Snapshot.blank⟩, ⟨some seen, { seen with phase := .bound }⟩] false = .ok result ∧
      call ∈ result.trace.calls ∧ call.kind = .tags ∧ call.volume.isTombstone = false ∧
      call.volume.volumeType = "t" ∧ call.volume.tags.getLast? = some "provisioner:d" := by
  intro seen
  obtain ⟨hruns, _⟩ := every_call_is_sound "d" "t" "p" (some 1)
  obtain ⟨hok, hsound⟩ := hruns []
    [⟨none, Snapshot.blank⟩, ⟨some seen, { seen with phase := .bound }⟩] false
  obtain ⟨result, hrun⟩ := hok (by decide)
  have hcall : (⟨0, .tags, (Site.ofNames "d" "t" "p").describe { seen with phase := .bound }⟩ :
      Call) ∈ result.trace.calls := by
    obtain rfl := Except.ok.inj hrun
    decide
  obtain ⟨change, _, _, htells, htags⟩ := hsound result hrun _ hcall
  obtain ⟨hexists, _⟩ := htags rfl
  obtain ⟨_, driver, hdriver, hlast⟩ := htells.suffix hexists
  rw [htells.ours] at hdriver
  obtain rfl := Option.some.inj hdriver
  exact ⟨result, _, hrun, hcall, rfl, hexists, htells.type, hlast⟩

end Supervisor

end VolumeSync
