import VolumeSync.Config
import VolumeSync.Proofs.BoundedNumbers
import VolumeSync.Proofs.Isolation
import VolumeSync.Proofs.Traffic

-- From the variables to the work. A configuration that is accepted has no
-- ceiling or one of at least one permit, so under it every task of a stream
-- gets to run. But what is accepted as a ceiling reaches further than the
-- number of permits that there can be.

namespace VolumeSync

/-! ## Accepted configurations -/

namespace Config

theorem lt_of_ceiling {lookup : Lookup} {permits : Nat}
    (h : ceiling lookup = .ok (some permits)) : permits < ceilingBound := by
  unfold ceiling at h
  split at h
  · cases h
  · cases h
  · rename_i cs _ _
    rcases hread : Text.readBelow ceilingBound cs with reason | n
    · rw [hread] at h
      cases h
    · rw [hread] at h
      cases h
      exact ((Text.readBelow_eq_ok_iff (by decide)).mp hread).2

/-- What comes out of two readings has come out of both. -/
theorem exists_of_bind_eq_ok {α β ε : Type} {first : Except ε α} {next : α → Except ε β} {b : β}
    (h : first >>= next = .ok b) : ∃ a, first = .ok a ∧ next a = .ok b := by
  rcases first with err | a
  · cases h
  · exact ⟨a, rfl, h⟩

theorem ceiling_of_read {lookup : Lookup} {config : Config} (h : read lookup = .ok config) :
    ceiling lookup = .ok config.maxConcurrentTasks := by
  obtain ⟨permits, hceiling, h⟩ := exists_of_bind_eq_ok h
  obtain ⟨_, _, h⟩ := exists_of_bind_eq_ok h
  obtain ⟨_, _, h⟩ := exists_of_bind_eq_ok h
  obtain ⟨_, _, h⟩ := exists_of_bind_eq_ok h
  cases h
  exact hceiling

theorem read_of_ofLookup {lookup : Lookup} {config : Config} (h : ofLookup lookup = .ok config) :
    read lookup = .ok config ∧ config.flaws = [] := by
  obtain ⟨made, hread, h⟩ := exists_of_bind_eq_ok h
  split at h
  · rename_i hempty
    cases h
    exact ⟨hread, List.isEmpty_iff.mp hempty⟩
  · cases h

/-- What is accepted as a ceiling: none, or a positive number that can be
written in 64 bits. -/
theorem ceiling_of_ofLookup {lookup : Lookup} {config : Config}
    (h : ofLookup lookup = .ok config) {permits : Nat}
    (hpermits : config.maxConcurrentTasks = some permits) :
    1 ≤ permits ∧ permits < wordCount 64 := by
  obtain ⟨hread, hflaws⟩ := read_of_ofLookup h
  have hceiling := ceiling_of_read hread
  rw [hpermits] at hceiling
  refine ⟨?_, lt_of_ceiling hceiling⟩
  have hkept : config.breaks .ceilingZero ≠ true :=
    List.filter_eq_nil_iff.mp hflaws .ceilingZero (by decide)
  rw [breaks, hpermits] at hkept
  exact Nat.pos_of_ne_zero fun hzero => hkept (by rw [hzero]; rfl)

end Config

/-! ## Runs of an accepted configuration -/

namespace Supervisor

theorem run_of_too_many {site : Site} {script : Script} {ceiling : Option Nat}
    {events : List Change} {endless : Bool} (h : maxPermits < ceiling.getD 0) :
    run site script ceiling events endless = .error {} := if_neg (Nat.not_le.mpr h)

/-- Where some task may run and no call hangs, every task ends and is
counted. -/
theorem exists_summary {site : Site} {script : Script} {ceiling : Option Nat}
    {events : List Change} (hceiling : ceiling ≠ some 0) (hscript : ∀ b ∈ script, b.hangs = false) :
    ∃ s, (inTurn site script ceiling events false).summary = some s ∧
      s.dispatched = (admitted site events).length ∧
      s.completed + s.failed + s.panicked = s.dispatched := by
  have hhung := countP_hangs_tasks site (admitted site events) hscript
  have hsome := (isSome_summary_iff site script ceiling events false).mpr ⟨rfl, by
    rw [performed_eq_self_of_no_hang hceiling hhung, hhung], fun hzero => hceiling hzero.1⟩
  obtain ⟨s, hs⟩ := Option.isSome_iff_exists.mp hsome
  obtain ⟨_, _, hdispatched, hcounts⟩ := inTurn_summary hs
  have hreports := congrArg List.length (TaskRun.map_report? hhung)
  rw [List.length_map, List.length_map, length_tasks] at hreports
  exact ⟨s, hs, hdispatched, by rw [hcounts.sum, hdispatched, hreports]⟩

end Supervisor

namespace Config

/-- The site of a configuration. -/
def site (c : Config) : Site := .ofNames c.provisionerName c.volumeType c.providerType

/-- An accepted configuration runs, and every change that gets a task is
counted at the end if no call hangs, as long as its ceiling asks for no more
permits than there can be; a ceiling that does ask for more is accepted too,
and then nothing runs. -/
theorem an_accepted_configuration_runs_with_few_permits {lookup : Lookup} {config : Config}
    (h : ofLookup lookup = .ok config) (script : Script) (events : List Change) :
    let ceiling := config.maxConcurrentTasks
    (∀ permits, ceiling = some permits → 1 ≤ permits ∧ permits < wordCount 64) ∧
    (Supervisor.maxPermits < ceiling.getD 0 → ∀ endless,
      Supervisor.run config.site script ceiling events endless = .error {}) ∧
    (ceiling.getD 0 ≤ Supervisor.maxPermits →
      ∃ result, Supervisor.run config.site script ceiling events false = .ok result ∧
        ((∀ b ∈ script, b.hangs = false) → ∃ s, result.summary = some s ∧
          s.dispatched = (Supervisor.admitted config.site events).length ∧
          s.completed + s.failed + s.panicked = s.dispatched)) := by
  intro ceiling
  refine ⟨fun permits => ceiling_of_ofLookup h, fun hmany endless =>
    Supervisor.run_of_too_many hmany, fun hfew => ?_⟩
  refine ⟨_, Supervisor.run_eq_inTurn config.site script ceiling events false hfew, ?_⟩
  refine Supervisor.exists_summary fun hzero => ?_
  have hpos := (ceiling_of_ofLookup h hzero).1
  omega

/-- Variables that set what has to be set, and this ceiling. -/
def lookupWith (ceiling : String) : Lookup := fun name =>
  [(Variable.provisionerName, "block.csi"), (Variable.volumeType, "vpc-block"),
    (Variable.providerUrl, "http://h"), (Variable.maxConcurrentTasks, ceiling)].lookup name

/-- With as many permits as there can be, a failed call and a panic are
counted. -/
theorem a_configuration_with_all_permits_runs :
    let config : Config :=
      ⟨"block.csi", "vpc-block", defaultProviderType, "http://h", none, some 2305843009213693951,
        none, defaultLogLevel⟩
    let script : Script :=
      [⟨.granted, .fail (.plain "no"), .succeed⟩, ⟨.panic .other, .succeed, .succeed⟩]
    let change : Change := ⟨none, { Snapshot.blank with driver := some "block.csi" }⟩
    ofLookup (lookupWith " 2305843009213693951 ") = .ok config ∧
      ∃ result s, Supervisor.run config.site script config.maxConcurrentTasks [change, change] false
          = .ok result ∧
        result.summary = some s ∧ s.completed + s.failed + s.panicked = 2 := by
  intro config script change
  have hconfig : ofLookup (lookupWith " 2305843009213693951 ") = .ok config := by rfl
  obtain ⟨_, _, hruns⟩ :=
    an_accepted_configuration_runs_with_few_permits hconfig script [change, change]
  obtain ⟨result, hrun, hcounts⟩ := hruns (by decide)
  obtain ⟨s, hs, hdispatched, hsum⟩ := hcounts (by decide)
  exact ⟨hconfig, result, s, hrun, hs, hsum.trans (hdispatched.trans (by decide))⟩

/-- One permit more is accepted, and nothing runs. -/
theorem a_configuration_with_too_many_permits_is_accepted :
    ∃ config, ofLookup (lookupWith "2305843009213693952") = .ok config ∧
      ∀ script events endless,
        Supervisor.run config.site script config.maxConcurrentTasks events endless
          = .error {} := by
  refine ⟨_, rfl, fun script events endless => ?_⟩
  exact Supervisor.run_of_too_many (by decide)

end Config

end VolumeSync
