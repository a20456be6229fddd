import VolumeSync.Proofs.AnyOrder
import VolumeSync.Proofs.Isolation
import VolumeSync.Proofs.LastSent

-- What a complete list does to the memory of the watch. Every volume that
-- it names is remembered as it is listed, and every other one is left as it
-- was. So the same list once more changes nothing and has nothing to tell;
-- but a volume that went while nobody looked stays in the memory, and one
-- that takes its name later is paired with it.

namespace VolumeSync

/-- A complete list as the watch reports it. -/
def listing (pvs : List PersistentVolume) : List WatchStep :=
  .init :: pvs.map .initApply ++ [.initDone]

/-- The volume that the list names under the key; of two the later. -/
def listed? (pvs : List PersistentVolume) (key : String) : Option PersistentVolume :=
  pvs.reverse.find? fun pv => pv.key == key

theorem isSome_listed? (pvs : List PersistentVolume) (key : String) :
    (listed? pvs key).isSome ↔ ∃ pv ∈ pvs, pv.key = key := by
  unfold listed?
  rw [List.find?_isSome]
  simp

/-- Where no two volumes have one key, the list names each of them. -/
theorem listed?_eq_some_iff {pvs : List PersistentVolume} (h : (pvs.map (·.key)).Nodup)
    (key : String) (pv : PersistentVolume) :
    listed? pvs key = some pv ↔ pv ∈ pvs ∧ pv.key = key := by
  constructor
  · intro hpv
    have hmem := List.mem_of_find?_eq_some hpv
    have hkey : pv.key = key := by simpa using List.find?_some hpv
    exact ⟨List.mem_reverse.mp hmem, hkey⟩
  · rintro ⟨hmem, hkey⟩
    obtain ⟨q, hq⟩ := Option.isSome_iff_exists.mp
      ((isSome_listed? pvs key).mpr ⟨pv, hmem, hkey⟩)
    have hqmem := List.mem_reverse.mp (List.mem_of_find?_eq_some hq)
    have hqkey : q.key = key := by simpa using List.find?_some hq
    rw [hq, List.inj_on_of_nodup_map h hqmem hmem (hqkey.trans hkey.symm)]

theorem listed?_perm {pvs order : List PersistentVolume} (h : (pvs.map (·.key)).Nodup)
    (hperm : order.Perm pvs) (key : String) : listed? order key = listed? pvs key := by
  have horder : (order.map (·.key)).Nodup := (hperm.map _).nodup_iff.mpr h
  refine Option.ext fun pv => ?_
  rw [listed?_eq_some_iff horder, listed?_eq_some_iff h, hperm.mem_iff]

/-! ## The memory after a list -/

namespace SnapshotCache

/-- Memories that give the same for every key are the same. -/
theorem ext_find? {c d : SnapshotCache}
    (h : ∀ key, c.lastSeen.find? key = d.lastSeen.find? key) : c = d :=
  congrArg SnapshotCache.mk (Keyed.ext_find? h)

theorem after_append (c : SnapshotCache) (steps more : List WatchStep) :
    c.after (steps ++ more) = (c.after steps).after more := List.foldl_append

theorem after_listing (c : SnapshotCache) (pvs : List PersistentVolume) :
    c.after (listing pvs) = pvs.foldl remember c := by
  unfold listing after
  rw [List.cons_append, List.foldl_cons, List.foldl_append, List.foldl_map]
  rfl

/-- A list puts in what it names and leaves the rest. -/
theorem find?_after_listing (c : SnapshotCache) (pvs : List PersistentVolume) (key : String) :
    (c.after (listing pvs)).lastSeen.find? key =
      ((listed? pvs key).map (·.snapshot)).or (c.lastSeen.find? key) := by
  rw [after_listing]
  induction pvs using List.reverseRecOn with
  | nil => rfl
  | append_singleton pvs pv ih =>
    rw [List.foldl_append]
    unfold listed? at ih ⊢
    rw [List.reverse_append]
    by_cases hk : pv.key = key
    · simp [remember, hk]
    · simpa [remember, hk] using ih

/-- The ends of a list give no changes. -/
theorem changes_listing_eq (c : SnapshotCache) (pvs : List PersistentVolume) :
    c.changes (listing pvs) = c.changes (pvs.map .initApply) := by
  unfold listing
  rw [changes_append]
  simp [changes, observe]

/-- What a list gives of each volume goes from what was remembered before
the list, as no other entry of the list touches that. -/
theorem changes_listing (c : SnapshotCache) {pvs : List PersistentVolume}
    (h : (pvs.map (·.key)).Nodup) :
    c.changes (listing pvs) =
      pvs.filterMap fun pv => (c.lastSnapshot? pv).map fun old => ⟨some old, pv.snapshot⟩ := by
  rw [changes_listing_eq]
  induction pvs generalizing c with
  | nil => rfl
  | cons pv rest ih =>
    obtain ⟨hnew, hrest⟩ := List.nodup_cons.mp h
    have hsame : ∀ q ∈ rest, (c.remember pv).lastSnapshot? q = c.lastSnapshot? q := by
      intro q hq
      have hne : pv.key ≠ q.key := fun heq => hnew (List.mem_map.mpr ⟨q, hq, heq.symm⟩)
      simp [remember, lastSnapshot?, hne]
    have htail := ih (c.remember pv) hrest
    rw [List.filterMap_congr fun q hq => by rw [hsame q hq]] at htail
    rw [List.map_cons, List.filterMap_cons]
    unfold changes
    simp only [observe]
    rw [htail]
    rcases c.lastSnapshot? pv with _ | old
    · rfl
    · rfl

/-- The same list once more changes nothing. -/
theorem after_listing_twice (c : SnapshotCache) (pvs : List PersistentVolume) :
    (c.after (listing pvs)).after (listing pvs) = c.after (listing pvs) := by
  refine ext_find? fun key => ?_
  rw [find?_after_listing, find?_after_listing, ← Option.or_assoc, Option.or_self]

/-- Every volume of a list is remembered as it is listed. -/
theorem lastSnapshot?_after_listing (c : SnapshotCache) {pvs : List PersistentVolume}
    (h : (pvs.map (·.key)).Nodup) {pv : PersistentVolume} (hpv : pv ∈ pvs) :
    (c.after (listing pvs)).lastSnapshot? pv = some pv.snapshot := by
  unfold lastSnapshot?
  rw [find?_after_listing, (listed?_eq_some_iff h pv.key pv).mpr ⟨hpv, rfl⟩]
  rfl

/-- The same list once more pairs each volume with itself. -/
theorem changes_listing_twice (c : SnapshotCache) {pvs : List PersistentVolume}
    (h : (pvs.map (·.key)).Nodup) :
    (c.after (listing pvs)).changes (listing pvs) =
      pvs.map fun pv => ⟨some pv.snapshot, pv.snapshot⟩ := by
  rw [changes_listing _ h, ← List.filterMap_eq_map]
  refine List.filterMap_congr fun pv hpv => ?_
  rw [lastSnapshot?_after_listing c h hpv]
  rfl

/-! ## Names that are taken again -/

/-- A complete list takes nothing out of the memory. After it a key is
remembered if and only if its volume was live before or is listed. So the
keys of the memory are those of the list if and only if the list misses no
volume that was live, and the next volume to be applied is a first sight if
and only if its key is neither listed nor left from before. -/
theorem a_list_takes_nothing_out (history : List WatchStep) (pvs : List PersistentVolume) :
    let memory := fresh.after (history ++ listing pvs)
    (∀ key, (memory.lastSeen.find? key).isSome ↔
      (∃ pv ∈ pvs, pv.key = key) ∨ Live history key) ∧
    ((∀ key, (memory.lastSeen.find? key).isSome ↔ ∃ pv ∈ pvs, pv.key = key) ↔
      ∀ key, Live history key → ∃ pv ∈ pvs, pv.key = key) ∧
    ∀ pv, (memory.observe (.apply pv)).2 = some ⟨none, pv.snapshot⟩ ↔
      (∀ q ∈ pvs, q.key ≠ pv.key) ∧ ¬ Live history pv.key := by
  intro memory
  have hkeys : ∀ key, (memory.lastSeen.find? key).isSome ↔
      (∃ pv ∈ pvs, pv.key = key) ∨ Live history key := by
    intro key
    have hfind := find?_after_listing (fresh.after history) pvs key
    rw [← after_append] at hfind
    rw [hfind, Option.isSome_or, Option.isSome_map, Bool.or_eq_true, isSome_listed?,
      isSome_find?_after]
  refine ⟨hkeys, ?_, ?_⟩
  · constructor
    · intro hsame key hlive
      exact (hsame key).mp ((hkeys key).mpr (Or.inr hlive))
    · intro hnone key
      rw [hkeys]
      exact or_iff_left_of_imp (hnone key)
  · intro pv
    have hnew : (memory.observe (.apply pv)).2 = some ⟨none, pv.snapshot⟩ ↔
        ¬ (memory.lastSeen.find? pv.key).isSome := by
      simp [observe, lastSnapshot?]
    rw [hnew, hkeys, not_or]
    simp

/-- A volume is applied, a list without it comes, and another volume takes
its name. The key was never forgotten: the new volume, which was not seen
before, is paired with the one that is gone, and its tags are sent as if it
had just bound, which a first sight does not do. -/
theorem a_dead_volume_is_paired_with_its_namesake :
    let pv (uid handle phase : String) : PersistentVolume :=
      ⟨some "pv-1", none, some uid, none, some phase, none, none, none, none,
        some ⟨"block.csi", handle, .empty⟩⟩
    let gone := pv "uid-1" "vol-1" "Pending"
    let new := pv "uid-2" "vol-2" "Bound"
    let memory := fresh.after ([.apply gone] ++ listing [])
    memory.lastSeen.keys = ["pv-1"] ∧
    (memory.observe (.apply new)).2 = some ⟨some gone.snapshot, new.snapshot⟩ ∧
    Change.isFirstBind ⟨some gone.snapshot, new.snapshot⟩ = true ∧
    Change.isFirstBind ⟨none, new.snapshot⟩ = false ∧
    ¬ ∀ (steps : List WatchStep) (pvs : List PersistentVolume) (key : String),
      ((fresh.after (steps ++ listing pvs)).lastSeen.find? key).isSome ↔
        ∃ pv ∈ pvs, pv.key = key := by
  intro pv gone new memory
  have hkeys : memory.lastSeen.keys = ["pv-1"] := by decide
  refine ⟨hkeys, by decide, by decide, by decide, ?_⟩
  intro h
  have hheld : (memory.lastSeen.find? "pv-1").isSome := by
    rw [← Keyed.mem_keys, hkeys]
    exact List.mem_singleton_self "pv-1"
  obtain ⟨q, hq, _⟩ := (h [.apply gone] [] "pv-1").mp hheld
  cases hq

end SnapshotCache

/-! ## Lists that have nothing to tell -/

namespace Supervisor

/-- Tasks that have nothing to tell show nothing and keep no permit, so
wherever they come, what is seen of the others is the same. -/
theorem watched_performed_of_skipped {quiet : List TaskRun}
    (h : ∀ r ∈ quiet, r = ⟨[], .finished .skipped⟩) (ceiling : Option Nat)
    (before later : List TaskRun) :
    (performed ceiling (before ++ quiet ++ later)).flatMap TaskRun.watched =
      (performed ceiling (before ++ later)).flatMap TaskRun.watched := by
  induction before generalizing ceiling with
  | nil =>
    rw [List.nil_append, List.nil_append]
    induction quiet with
    | nil => rfl
    | cons r rest ih =>
      by_cases hzero : ceiling = some 0
      · rw [hzero, performed_zero, performed_zero]
      · obtain ⟨free, rfl⟩ := exists_map_succ hzero
        obtain rfl := h r List.mem_cons_self
        rw [List.cons_append, performed_cons, List.flatMap_cons]
        exact ih fun x hx => h x (List.mem_cons_of_mem _ hx)
  | cons r rest ih =>
    by_cases hzero : ceiling = some 0
    · rw [hzero, performed_zero, performed_zero]
    · obtain ⟨free, rfl⟩ := exists_map_succ hzero
      simp only [List.cons_append, performed_cons, List.flatMap_cons]
      congr 1
      exact ih _

theorem skipped_of_mem_tasks {site : Site} {script : Script} {n : Nat} {changes : List Change}
    (h : ∀ change ∈ changes, change.isMaterial = false) :
    ∀ r ∈ tasks site script n changes, r = ⟨[], .finished .skipped⟩ := by
  induction changes generalizing n with
  | nil => simp [tasks]
  | cons change rest ih =>
    intro r hr
    rcases List.mem_cons.mp hr with rfl | hr
    · exact Reconcile.run_of_not_material site _ _ (h change List.mem_cons_self)
    · exact ih (fun c hc => h c (List.mem_cons_of_mem _ hc)) r hr

/-- Changes that are not material do not show in a run, wherever they come
in its stream. -/
theorem trace_inTurn_of_not_material (site : Site) (script : Script) (ceiling : Option Nat)
    {quiet : List Change} (h : ∀ change ∈ quiet, change.isMaterial = false)
    (before later : List Change) (endless : Bool) :
    (inTurn site script ceiling (before ++ quiet ++ later) endless).trace =
      (inTurn site script ceiling (before ++ later) endless).trace := by
  have hquiet : ∀ change ∈ admitted site quiet, change.isMaterial = false :=
    fun change hc => h change (List.mem_filter.mp hc).1
  -- They take no session number from the changes that come after them.
  have hcount : (admitted site quiet).countP Change.isMaterial = 0 := by
    rw [List.countP_eq_zero]
    intro change hc
    rw [hquiet change hc]
    exact Bool.false_ne_true
  unfold inTurn
  simp only [admitted_append, tasks_append, List.countP_append, hcount, Nat.add_zero]
  exact watched_performed_of_skipped (skipped_of_mem_tasks hquiet) ceiling _ _

theorem trace_run_of_not_material {site : Site} {script : Script} {ceiling : Option Nat}
    {quiet : List Change} (h : ∀ change ∈ quiet, change.isMaterial = false)
    (before later : List Change) {endless : Bool} {result result' : Result}
    (hrun : run site script ceiling (before ++ quiet ++ later) endless = .ok result)
    (hrun' : run site script ceiling (before ++ later) endless = .ok result') :
    result.trace = result'.trace := by
  have hle := le_of_run_ok hrun
  rw [run_eq_inTurn site script ceiling _ endless hle] at hrun hrun'
  obtain rfl := Except.ok.inj hrun
  obtain rfl := Except.ok.inj hrun'
  exact trace_inTurn_of_not_material site script ceiling h before later endless

/-- A run on changes that are not material is seen to do nothing. -/
theorem trace_run_eq_nil {site : Site} {script : Script} {ceiling : Option Nat}
    {quiet : List Change} (h : ∀ change ∈ quiet, change.isMaterial = false) {endless : Bool}
    {result : Result} (hrun : run site script ceiling quiet endless = .ok result) :
    result.trace = [] := by
  have hle := le_of_run_ok hrun
  have hnone := run_eq_inTurn site script ceiling [] endless hle
  have hrun' : run site script ceiling ([] ++ quiet ++ []) endless = .ok result := by
    rw [List.nil_append, List.append_nil]
    exact hrun
  rw [trace_run_of_not_material h [] [] hrun' hnone]
  simp [inTurn, admitted, tasks]

/-- In any order of moves as well, nothing is seen of changes that are not
material. -/
theorem Pool.trace_eq_nil {site : Site} {provider : Provider} {feed : Feed}
    {ceiling : Option Nat} {p : Pool} (hp : p.Reachable site provider feed ceiling)
    (h : ∀ i change, feed i = some change → change.isMaterial = false) : p.trace = [] := by
  refine List.eq_nil_iff_forall_not_mem.mpr ?_
  rintro ⟨ticket, effect⟩ hmem
  have hseen := mem_traceOf.mpr hmem
  obtain ⟨change, session, hfeed, _, hcut⟩ :=
    exists_traceOf_isPrefix hp (List.ne_nil_of_mem hseen)
  rw [Reconcile.run_of_not_material site session _ (h ticket change hfeed)] at hcut
  cases hcut.subset hseen

end Supervisor

/-! ## The law -/

namespace SnapshotCache

open Supervisor

/-- Listing once more what was just listed is no news. Whatever reports have
come, let a list of volumes with a key each come twice in a row. The second
leaves the memory as the first left it and pairs each volume with itself; a
run on these changes is seen to do nothing, and wherever they come in the
stream of a run, it is seen to do what it does without them. In any order of
moves nothing is seen of them either. To a fresh memory a list gives no
changes at all. What a list leaves in the memory, and
which changes it gives, does not hang on the order of its volumes. -/
theorem a_second_list_is_no_news (history : List WatchStep) (pvs : List PersistentVolume)
    (h : (pvs.map (·.key)).Nodup) :
    let memory := fresh.after history
    let once := memory.after (listing pvs)
    let again := once.changes (listing pvs)
    once.after (listing pvs) = once ∧
    again = pvs.map (fun pv => ⟨some pv.snapshot, pv.snapshot⟩) ∧
    (∀ site script ceiling endless,
      (ceiling.getD 0 ≤ maxPermits → ∃ result, run site script ceiling again endless = .ok result) ∧
      (∀ result, run site script ceiling again endless = .ok result → result.trace = []) ∧
      ∀ before later result result',
        run site script ceiling (before ++ again ++ later) endless = .ok result →
        run site script ceiling (before ++ later) endless = .ok result' →
        result.trace = result'.trace) ∧
    (∀ site provider ceiling p,
      Pool.Reachable site provider (Feed.ofList again) ceiling p → p.trace = []) ∧
    fresh.changes (listing pvs) = [] ∧
    ∀ order : List PersistentVolume, order.Perm pvs →
      memory.after (listing order) = once ∧
        (memory.changes (listing order)).Perm (memory.changes (listing pvs)) := by
  intro memory once again
  have hagain : again = pvs.map (fun pv => ⟨some pv.snapshot, pv.snapshot⟩) :=
    changes_listing_twice memory h
  have hquiet : ∀ change ∈ again, change.isMaterial = false := by
    intro change hc
    rw [hagain] at hc
    obtain ⟨pv, _, rfl⟩ := List.mem_map.mp hc
    simp [Change.isMaterial, Change.decision, Change.Alike.refl]
  refine ⟨after_listing_twice memory pvs, hagain, ?_, ?_, ?_, ?_⟩
  · intro site script ceiling endless
    refine ⟨?_, ?_, ?_⟩
    · intro hle
      exact ⟨_, run_eq_inTurn site script ceiling again endless hle⟩
    · intro result hrun
      exact trace_run_eq_nil hquiet hrun
    · intro before later result result' hrun hrun'
      exact trace_run_of_not_material hquiet before later hrun hrun'
  · intro site provider ceiling p hp
    exact Pool.trace_eq_nil hp fun _ _ hget => hquiet _ (List.mem_of_getElem? hget)
  · rw [changes_listing _ h]
    exact List.filterMap_eq_nil_iff.mpr fun pv _ => rfl
  · intro order hperm
    have horder : (order.map (·.key)).Nodup := (hperm.map _).nodup_iff.mpr h
    refine ⟨ext_find? fun key => ?_, ?_⟩
    · rw [find?_after_listing, find?_after_listing, listed?_perm h hperm]
    · rw [changes_listing _ h, changes_listing _ horder]
      exact hperm.filterMap _

/-- Two volumes, one of them seen before in another phase, are listed twice:
the second list pairs each with itself, and a run on that calls nobody. -/
theorem two_volumes_listed_twice :
    let pv (name phase : String) : PersistentVolume :=
      ⟨some name, none, none, none, some phase, none, none, none, none,
        some ⟨"d", "h", .empty⟩⟩
    let pvs := [pv "a" "Bound", pv "b" "Released"]
    let once := (fresh.after [.apply (pv "a" "Pending")]).after (listing pvs)
    (pvs.map (·.key)).Nodup ∧
    once.changes (listing pvs) =
      [⟨some (pv "a" "Bound").snapshot, (pv "a" "Bound").snapshot⟩,
        ⟨some (pv "b" "Released").snapshot, (pv "b" "Released").snapshot⟩] ∧
    ∃ result, run ⟨"d", "p", .empty⟩ [] (some 1) (once.changes (listing pvs)) false = .ok result ∧
      result.trace = [] := by
  intro pv pvs once
  have h : (pvs.map (·.key)).Nodup := by decide
  obtain ⟨_, hpairs, hruns, _⟩ := a_second_list_is_no_news [.apply (pv "a" "Pending")] pvs h
  obtain ⟨hok, hsilent, _⟩ := hruns ⟨"d", "p", .empty⟩ [] (some 1) false
  obtain ⟨result, hrun⟩ := hok (by decide)
  exact ⟨h, hpairs, result, hrun, hsilent result hrun⟩

end SnapshotCache

end VolumeSync
