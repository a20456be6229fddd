import VolumeSync.ClusterWatch
import VolumeSync.Proofs.Relisting

-- Following a cluster. What it gives is what its answers give, one after the
-- other: a list comes whole or not at all, a watch comes up to where its
-- history is lost, and each kind of answer is waited for in its turn. So news
-- come only after a list since which no history was lost.

namespace VolumeSync

/-! ## Lines -/

namespace WatchLine

/-- The report that a line is. -/
def step? : WatchLine → Option WatchStep
  | .applied pv => some (.apply pv)
  | .deleted pv => some (.delete pv)
  | _ => none

/-- The line is no news and no mark. -/
def isTroubled : WatchLine → Bool
  | .trouble => true
  | .expired => true
  | _ => false

end WatchLine

namespace Cluster

/-- A connection is heard on where no line says that the history is lost. -/
theorem heard_append {before : List WatchLine} (h : loses before = false)
    (rest : List WatchLine) : heard (before ++ rest) = before ++ heard rest := by
  induction before with
  | nil => rfl
  | cons line before ih =>
    rw [loses, List.any_cons, Bool.or_eq_false_iff] at h
    rw [List.cons_append, heard, ih h.2]
    · rfl
    · rintro rfl
      cases h.1

/-- What comes after the line that says so is not heard. -/
theorem heard_of_lost {before : List WatchLine} (h : loses before = false)
    (later : List WatchLine) : heard (before ++ .expired :: later) = before ++ [.expired] :=
  heard_append h (.expired :: later)

/-! ## What lists and lines give -/

theorem filterMap_step?_ofList (pvs : List PersistentVolume) :
    (Sighting.ofList pvs).filterMap Sighting.step? = pvs.map .initApply ++ [.initDone] := by
  rw [Sighting.ofList, List.filterMap_append, List.filterMap_map]
  exact congrArg (· ++ [WatchStep.initDone]) (congrFun List.filterMap_eq_map' pvs)

theorem filterMap_request?_ofList (pvs : List PersistentVolume) :
    (Sighting.ofList pvs).filterMap Sighting.request? = [] := by
  simp [Sighting.ofList, Sighting.request?]

theorem countP_isFailure_ofList (pvs : List PersistentVolume) :
    (Sighting.ofList pvs).countP Sighting.isFailure = 0 := by
  simp [Sighting.ofList, Sighting.isFailure]

theorem filterMap_step?_ofLine (lines : List WatchLine) :
    (lines.flatMap Sighting.ofLine).filterMap Sighting.step? =
      lines.filterMap WatchLine.step? := by
  rw [List.filterMap_flatMap, List.filterMap_eq_flatMap_toList]
  refine List.flatMap_congr fun line _ => ?_
  cases line <;> rfl

theorem filterMap_request?_ofLine (lines : List WatchLine) :
    (lines.flatMap Sighting.ofLine).filterMap Sighting.request? = [] := by
  rw [List.filterMap_flatMap, List.flatMap_eq_nil_iff]
  intro line _
  cases line <;> rfl

theorem countP_isFailure_ofLine (lines : List WatchLine) :
    (lines.flatMap Sighting.ofLine).countP Sighting.isFailure =
      lines.countP WatchLine.isTroubled := by
  induction lines with
  | nil => rfl
  | cons line lines ih =>
    rw [List.flatMap_cons, List.countP_append, ih, List.countP_cons, Nat.add_comm]
    cases line <;> rfl

/-! ## Answers -/

/-- An answer to a request of either kind. -/
inductive Answer where
  | list (answer : ListAnswer)
  | watch (answer : WatchAnswer)

namespace Answer

/-- The kind of the request. -/
def request : Answer → ClusterRequest
  | .list _ => .list
  | .watch _ => .watch

/-- It answers a request for the list. -/
def isList : Answer → Bool
  | .list _ => true
  | .watch _ => false

/-- The answer to a request for the list. -/
def list? : Answer → Option ListAnswer
  | .list answer => some answer
  | .watch _ => none

/-- The answer to a request for a watch. -/
def watch? : Answer → Option WatchAnswer
  | .list _ => none
  | .watch answer => some answer

/-- What is wanted next is a list: it is not there yet, or the history was
lost. -/
def wantsList : Answer → Bool
  | .list answer => answer.isNone
  | .watch none => false
  | .watch (some lines) => loses lines

/-- What the answer gives. -/
def sightings : Answer → List Sighting
  | .list none => [.reported .init, .answered .list, .failed]
  | .list (some pvs) => .reported .init :: .answered .list :: Sighting.ofList pvs
  | .watch none => [.answered .watch, .failed]
  | .watch (some lines) => .answered .watch :: (heard lines).flatMap Sighting.ofLine

/-- The reports in what the answer gives. -/
def steps : Answer → List WatchStep
  | .list none => [.init]
  | .list (some pvs) => listing pvs
  | .watch none => []
  | .watch (some lines) => (heard lines).filterMap WatchLine.step?

/-- The number of failures in what the answer gives. -/
def failures : Answer → Nat
  | .list none => 1
  | .list (some _) => 0
  | .watch none => 1
  | .watch (some lines) => (heard lines).countP WatchLine.isTroubled

/-- A cluster that gives the answer before those of another. -/
def followedBy (a : Answer) (c : Cluster) : Cluster :=
  match a with
  | .list answer => { c with lists := answer :: c.lists }
  | .watch answer => { c with watches := answer :: c.watches }

theorem filterMap_step?_sightings (a : Answer) :
    a.sightings.filterMap Sighting.step? = a.steps := by
  rcases a with (_ | pvs) | (_ | lines)
  · rfl
  · exact congrArg (WatchStep.init :: ·) (filterMap_step?_ofList pvs)
  · rfl
  · exact filterMap_step?_ofLine (heard lines)

theorem filterMap_request?_sightings (a : Answer) :
    a.sightings.filterMap Sighting.request? = [a.request] := by
  rcases a with (_ | pvs) | (_ | lines)
  · rfl
  · exact congrArg (ClusterRequest.list :: ·) (filterMap_request?_ofList pvs)
  · rfl
  · exact congrArg (ClusterRequest.watch :: ·) (filterMap_request?_ofLine (heard lines))

theorem countP_isFailure_sightings (a : Answer) :
    a.sightings.countP Sighting.isFailure = a.failures := by
  rcases a with (_ | pvs) | (_ | lines)
  · rfl
  · exact countP_isFailure_ofList pvs
  · rfl
  · exact countP_isFailure_ofLine (heard lines)

end Answer

/-! ## Turns -/

/-- A list is wanted after the answers, if one is or is not wanted before. -/
def wants : Bool → List Answer → Bool
  | wantsList, [] => wantsList
  | _, a :: answers => wants a.wantsList answers

/-- Every answer is one to what is wanted where it comes. -/
def InTurn : Bool → List Answer → Prop
  | _, [] => True
  | wantsList, a :: answers => a.isList = wantsList ∧ InTurn a.wantsList answers

/-- The step: an answer of the kind that is wanted gives what it gives. -/
theorem followFrom_followedBy (a : Answer) (c : Cluster) :
    (a.followedBy c).followFrom a.isList = a.sightings ++ c.followFrom a.wantsList := by
  rcases a with (_ | pvs) | (_ | lines)
  · rw [Answer.followedBy, Answer.isList, followFrom]
    rfl
  · rw [Answer.followedBy, Answer.isList, followFrom]
    rfl
  · rw [Answer.followedBy, Answer.isList, followFrom]
    rfl
  · rw [Answer.followedBy, Answer.isList, followFrom]
    rfl

/-- How following goes: through these answers, until one of the kind that is
wanted stays away. -/
structure Follows (wantsList : Bool) (c : Cluster) (answers : List Answer) (rest : Cluster) :
    Prop where
  lists : c.lists = answers.filterMap Answer.list? ++ rest.lists
  watches : c.watches = answers.filterMap Answer.watch? ++ rest.watches
  turns : InTurn wantsList answers
  stops : if wants wantsList answers then rest.lists = [] else rest.watches = []
  gives : c.followFrom wantsList = answers.flatMap Answer.sightings ++
    if wants wantsList answers then [.reported .init] else []

theorem Follows.cons {a : Answer} {c rest : Cluster} {answers : List Answer}
    (h : Follows a.wantsList c answers rest) :
    Follows a.isList (a.followedBy c) (a :: answers) rest := by
  refine ⟨?_, ?_, ⟨rfl, h.turns⟩, h.stops, ?_⟩
  · cases a with
    | list answer => exact congrArg (answer :: ·) h.lists
    | watch answer => exact h.lists
  · cases a with
    | list answer => exact h.watches
    | watch answer => exact congrArg (answer :: ·) h.watches
  · rw [followFrom_followedBy, h.gives, List.flatMap_cons, List.append_assoc]
    rfl

/-- The run: following a cluster goes through its answers. -/
theorem exists_follows (wantsList : Bool) (c : Cluster) :
    ∃ answers rest, Follows wantsList c answers rest := by
  induction wantsList, c using followFrom.induct with
  | case1 watches => exact ⟨[], ⟨[], watches⟩, rfl, rfl, trivial, rfl, by rw [followFrom]; rfl⟩
  | case2 lists watches ih =>
    obtain ⟨answers, rest, h⟩ := ih
    exact ⟨.list none :: answers, rest, Follows.cons (a := .list none) h⟩
  | case3 pvs lists watches ih =>
    obtain ⟨answers, rest, h⟩ := ih
    exact ⟨.list (some pvs) :: answers, rest, Follows.cons (a := .list (some pvs)) h⟩
  | case4 lists => exact ⟨[], ⟨lists, []⟩, rfl, rfl, trivial, rfl, by rw [followFrom]; rfl⟩
  | case5 lists watches ih =>
    obtain ⟨answers, rest, h⟩ := ih
    exact ⟨.watch none :: answers, rest, Follows.cons (a := .watch none) h⟩
  | case6 lists lines watches ih =>
    obtain ⟨answers, rest, h⟩ := ih
    exact ⟨.watch (some lines) :: answers, rest, Follows.cons (a := .watch (some lines)) h⟩

/-! ## What following gives -/

section Given

variable {wantsList : Bool} {c rest : Cluster} {answers : List Answer}
  (h : Follows wantsList c answers rest)

include h

/-- The reports are those of the answers. Where a list is waited for at the
end, its beginning has been reported. -/
theorem Follows.filterMap_step? : (c.followFrom wantsList).filterMap Sighting.step? =
    answers.flatMap Answer.steps ++ if wants wantsList answers then [.init] else [] := by
  rw [h.gives, List.filterMap_append, List.filterMap_flatMap]
  simp only [Answer.filterMap_step?_sightings]
  split
  · rfl
  · rfl

theorem Follows.filterMap_request? :
    (c.followFrom wantsList).filterMap Sighting.request? = answers.map Answer.request := by
  have hrest : (if wants wantsList answers then [Sighting.reported .init] else []).filterMap
      Sighting.request? = [] := by
    split
    · rfl
    · rfl
  rw [h.gives, List.filterMap_append, hrest, List.append_nil, List.filterMap_flatMap]
  simp only [Answer.filterMap_request?_sightings]
  exact List.map_eq_flatMap.symm

theorem Follows.countP_isFailure :
    (c.followFrom wantsList).countP Sighting.isFailure = (answers.map Answer.failures).sum := by
  have hrest : (if wants wantsList answers then [Sighting.reported .init] else []).countP
      Sighting.isFailure = 0 := by
    split
    · rfl
    · rfl
  rw [h.gives, List.countP_append, hrest, Nat.add_zero, List.countP_flatMap]
  simp only [Function.comp_def, Answer.countP_isFailure_sightings]

end Given

/-! ## News come after a list -/

theorem wants_append (wantsList : Bool) (before later : List Answer) :
    wants wantsList (before ++ later) = wants (wants wantsList before) later := by
  induction before generalizing wantsList with
  | nil => rfl
  | cons a before ih => exact ih a.wantsList

theorem inTurn_append (wantsList : Bool) (before later : List Answer) :
    InTurn wantsList (before ++ later) ↔
      InTurn wantsList before ∧ InTurn (wants wantsList before) later := by
  induction before generalizing wantsList with
  | nil => exact (and_iff_right trivial).symm
  | cons a before ih =>
    rw [List.cons_append, InTurn, InTurn, ih, and_assoc]
    rfl

/-- Where no list is wanted, one has come, and no watch has lost its history
since. -/
theorem exists_list {before : List Answer} (h : InTurn true before)
    (hwants : wants true before = false) :
    ∃ (earlier : List Answer) (pvs : List PersistentVolume) (watches : List WatchAnswer),
      before = earlier ++ .list (some pvs) :: watches.map .watch ∧
        ∀ watch ∈ watches, (Answer.watch watch).wantsList = false := by
  induction before using List.reverseRecOn with
  | nil => cases hwants
  | append_singleton before a ih =>
    obtain ⟨hbefore, ha, _⟩ := (inTurn_append true before [a]).mp h
    rw [wants_append] at hwants
    rcases a with (_ | pvs) | watch
    · cases hwants
    · exact ⟨before, pvs, [], rfl, fun _ hno => absurd hno List.not_mem_nil⟩
    · obtain ⟨earlier, pvs, watches, rfl, hkept⟩ := ih hbefore ha.symm
      refine ⟨earlier, pvs, watches ++ [watch], by simp, fun x hx => ?_⟩
      rcases List.mem_append.mp hx with hx | hx
      · exact hkept x hx
      · rw [List.mem_singleton.mp hx]
        exact hwants

/-- A watch is answered only after a list since which no history was lost. So
what is remembered by then of the volumes that it named is all but what has
been deleted since. -/
theorem a_watch_finds_what_was_listed {c rest : Cluster}
    {before later : List Answer} {watch : WatchAnswer}
    (h : Follows true c (before ++ .watch watch :: later) rest) :
    ∃ (earlier : List Answer) (pvs : List PersistentVolume) (watches : List WatchAnswer),
      before = earlier ++ .list (some pvs) :: watches.map .watch ∧
      (∀ watch ∈ watches, (Answer.watch watch).wantsList = false) ∧
      ∀ pv ∈ pvs,
        (∀ x ∈ (watches.map Answer.watch).flatMap Answer.steps, ¬x.Deletes pv.key) →
        ((SnapshotCache.fresh.after (before.flatMap Answer.steps)).lastSeen.find?
          pv.key).isSome := by
  obtain ⟨hbefore, hwants, _⟩ := (inTurn_append true before (.watch watch :: later)).mp h.turns
  obtain ⟨earlier, pvs, watches, hsplit, hkept⟩ := exists_list hbefore hwants.symm
  refine ⟨earlier, pvs, watches, hsplit, hkept, fun pv hpv hleft => ?_⟩
  obtain ⟨front, back, rfl⟩ := List.append_of_mem hpv
  rw [SnapshotCache.isSome_find?_after, hsplit]
  refine ⟨earlier.flatMap Answer.steps ++ .init :: front.map .initApply, .initApply pv,
    back.map .initApply ++ .initDone :: (watches.map Answer.watch).flatMap Answer.steps,
    ?_, ⟨pv, rfl, rfl⟩, ?_⟩
  · simp [Answer.steps, listing]
  · intro x hx
    simp only [List.mem_append, List.mem_map, List.mem_cons] at hx
    rcases hx with ⟨q, _, rfl⟩ | rfl | hx
    · rintro ⟨_, hno, _⟩
      cases hno
    · rintro ⟨_, hno, _⟩
      cases hno
    · exact hleft x hx

/-! ## Failures -/

/-- The cluster with the same answers but those that fail. -/
def reliable (c : Cluster) : Cluster :=
  ⟨c.lists.filter Option.isSome, c.watches.filter Option.isSome⟩

/-- The changes that a memory makes of the reports. -/
def changesFrom (memory : SnapshotCache) (wantsList : Bool) (c : Cluster) : List Change :=
  memory.changes ((c.followFrom wantsList).filterMap Sighting.step?)

theorem changesFrom_followedBy (memory : SnapshotCache) (a : Answer) (c : Cluster) :
    (a.followedBy c).changesFrom memory a.isList =
      memory.changes a.steps ++ c.changesFrom (memory.after a.steps) a.wantsList := by
  rw [changesFrom, followFrom_followedBy, List.filterMap_append,
    Answer.filterMap_step?_sightings, SnapshotCache.changes_append]
  rfl

theorem changesFrom_followedBy_congr (memory : SnapshotCache) (a : Answer) {c c' : Cluster}
    (h : ∀ memory, c.changesFrom memory a.wantsList = c'.changesFrom memory a.wantsList) :
    (a.followedBy c).changesFrom memory a.isList =
      (a.followedBy c').changesFrom memory a.isList := by
  rw [changesFrom_followedBy, changesFrom_followedBy, h]

/-- Requests that fail make no difference to the changes. -/
theorem changesFrom_reliable (memory : SnapshotCache) (wantsList : Bool) (c : Cluster) :
    c.reliable.changesFrom memory wantsList = c.changesFrom memory wantsList := by
  induction wantsList, c using followFrom.induct generalizing memory with
  | case1 watches =>
    rw [reliable, changesFrom, changesFrom, List.filter_nil, followFrom, followFrom]
  | case2 lists watches ih =>
    -- The failure has begun a list, of which the memory makes nothing.
    exact (ih memory).trans (changesFrom_followedBy memory (.list none) ⟨lists, watches⟩).symm
  | case3 pvs lists watches ih =>
    exact changesFrom_followedBy_congr memory (.list (some pvs)) (c := reliable ⟨lists, watches⟩) ih
  | case4 lists =>
    rw [reliable, changesFrom, changesFrom, List.filter_nil, followFrom, followFrom]
  | case5 lists watches ih =>
    exact (ih memory).trans (changesFrom_followedBy memory (.watch none) ⟨lists, watches⟩).symm
  | case6 lists lines watches ih =>
    exact changesFrom_followedBy_congr memory (.watch (some lines))
      (c := reliable ⟨lists, watches⟩) ih

end Cluster

end VolumeSync
