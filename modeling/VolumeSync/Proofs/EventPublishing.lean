import VolumeSync.EventSeries
import Mathlib.Data.List.Basic

-- What becomes of notifications. Each is tried once, in order. The first of
-- those that say the same makes an event as soon as the cluster grants it, and
-- every later one asks to count that event once more, with the number that
-- has been granted before it.

namespace VolumeSync.EventLog

/-! ## Notifications that say the same -/

theorem isSame_iff (a b : Notice) :
    isSame a b = true ↔ a.severity = b.severity ∧ a.resource = b.resource := by
  simp only [isSame, Bool.and_eq_true, beq_iff_eq]

theorem isSame_congr {a b : Notice} (h : isSame a b = true) (c : Notice) :
    isSame c a = isSame c b := by
  obtain ⟨hseverity, hresource⟩ := (isSame_iff a b).mp h
  simp only [isSame, hseverity, hresource]

theorem isSame_comm (a b : Notice) : isSame a b = isSame b a := by
  simp only [isSame, Bool.beq_comm]

theorem find?_congr {a b : Notice} (h : isSame a b = true) (log : EventLog) :
    log.find? a = log.find? b := by
  simp only [find?, isSame_congr h]

theorem isSame_of_find? {log : EventLog} {notice : Notice} {s : Series}
    (h : log.find? notice = some s) : isSame s.first notice = true := by
  have hsame := List.find?_some h
  exact hsame

/-! ## The events after a grant -/

/-- An event once more, or the first time. -/
def counted (notice : Notice) : Option Series → Series
  | none => ⟨notice, 1⟩
  | some s => { s with times := s.times + 1 }

/-- A grant touches the event of the notification and no other. -/
theorem find?_granted (log : EventLog) (notice other : Notice) :
    (log.granted notice).find? other =
      if isSame notice other then some (counted notice (log.find? notice))
      else log.find? other := by
  rcases hfind : log.find? notice with _ | s
  · rw [granted, hfind]
    dsimp only
    rw [find?, List.find?_append, ← find?, List.find?_singleton]
    by_cases hsame : isSame notice other = true
    · rw [← find?_congr hsame, hfind, if_pos hsame, if_pos hsame]
      rfl
    · rw [if_neg hsame, if_neg hsame, Option.or_none]
  · rw [granted, hfind]
    dsimp only
    -- Counting leaves the first notification of an event as it is.
    have hfirst : ∀ t : Series,
        isSame (if isSame t.first notice then { t with times := t.times + 1 } else t).first other =
          isSame t.first other := by
      intro t
      split
      · rfl
      · rfl
    rw [find?, List.find?_map, Function.comp_def]
    simp only [hfirst]
    rw [← find?]
    by_cases hsame : isSame notice other = true
    · rw [← find?_congr hsame, hfind, if_pos hsame, Option.map_some, if_pos (isSame_of_find? hfind)]
      rfl
    · rw [if_neg hsame]
      rcases hother : log.find? other with _ | t
      · rfl
      · have hno : ¬isSame t.first notice = true := by
          rwa [isSame_comm, isSame_congr (isSame_of_find? hother)]
        rw [Option.map_some, if_neg hno]

/-! ## One attempt -/

/-- What comes of the next notification. -/
def attempt (log : EventLog) (notice : Notice) (statuses : List Nat) : Attempt :=
  if (log.publication notice).isMakeable then
    ⟨notice, some (log.publication notice), !statuses.head?.any isFailure⟩
  else ⟨notice, none, false⟩

/-- The events after an attempt. -/
def after (log : EventLog) (a : Attempt) : EventLog :=
  if a.recorded then log.granted a.notice else log

/-- The requests that the attempts made. -/
def requests (attempts : List Attempt) : List Publication := attempts.filterMap (·.request)

theorem publish_cons (log : EventLog) (notice : Notice) (notices : List Notice)
    (statuses : List Nat) :
    publish log (notice :: notices) statuses =
      log.attempt notice statuses :: publish (log.after (log.attempt notice statuses)) notices
        (statuses.drop (requests [log.attempt notice statuses]).length) := by
  rw [publish, attempt]
  by_cases hmake : (log.publication notice).isMakeable = true
  · simp only [if_pos hmake, after, Bool.not_eq_true']
    rw [← List.drop_one]
    rcases statuses.head?.any isFailure with _ | _
    · rfl
    · rfl
  · simp only [if_neg hmake]
    rfl

/-- Every notification is tried once, in order. -/
theorem map_notice_publish (log : EventLog) (notices : List Notice) (statuses : List Nat) :
    (publish log notices statuses).map (·.notice) = notices := by
  induction notices generalizing log statuses with
  | nil => rfl
  | cons notice notices ih =>
    have hnotice : (log.attempt notice statuses).notice = notice := by
      rw [attempt]
      split
      · rfl
      · rfl
    rw [publish_cons, List.map_cons, ih, hnotice]

/-! ## What the attempts leave -/

/-- The attempts that made or counted the event that the notification belongs
to. -/
def recordedAs (attempts : List Attempt) (notice : Notice) : List Attempt :=
  attempts.filter fun a => a.recorded && isSame a.notice notice

/-- The event that the notification belongs to, as the attempts leave it: it
keeps the notification that it began with, and was published as often as one
was recorded. -/
def left? (attempts : List Attempt) (notice : Notice) : Option Series :=
  (recordedAs attempts notice).head?.map fun first =>
    ⟨first.notice, (recordedAs attempts notice).length⟩

theorem left?_congr {a b : Notice} (h : isSame a b = true) (attempts : List Attempt) :
    left? attempts a = left? attempts b := by
  simp only [left?, recordedAs, isSame_congr h]

theorem left?_concat (attempts : List Attempt) (a : Attempt) (notice : Notice) :
    left? (attempts ++ [a]) notice =
      if a.recorded && isSame a.notice notice then
        some (counted a.notice (left? attempts notice))
      else left? attempts notice := by
  have hconcat : recordedAs (attempts ++ [a]) notice =
      recordedAs attempts notice ++ if a.recorded && isSame a.notice notice then [a] else [] := by
    rw [recordedAs, List.filter_append, List.filter_singleton, Bool.cond_eq_ite]
    rfl
  rw [left?, hconcat, left?]
  by_cases hrecorded : (a.recorded && isSame a.notice notice) = true
  · rw [if_pos hrecorded, if_pos hrecorded, List.length_append, List.length_singleton]
    rcases recordedAs attempts notice with _ | ⟨first, more⟩
    · rfl
    · rfl
  · rw [if_neg hrecorded, if_neg hrecorded, List.append_nil]

/-- The events are those that the attempts leave. -/
def IsLeftBy (attempts : List Attempt) (log : EventLog) : Prop :=
  ∀ notice, log.find? notice = left? attempts notice

/-- One attempt more keeps the events and the attempts in step. -/
theorem IsLeftBy.snoc {attempts : List Attempt} {log : EventLog} (h : IsLeftBy attempts log)
    (a : Attempt) : IsLeftBy (attempts ++ [a]) (log.after a) := by
  intro notice
  rw [left?_concat, after]
  rcases hrecorded : a.recorded with _ | _
  · exact h notice
  · rw [if_pos rfl, find?_granted, Bool.true_and]
    by_cases hsame : isSame a.notice notice = true
    · rw [if_pos hsame, if_pos hsame, h a.notice, left?_congr hsame]
    · rw [if_neg hsame, if_neg hsame, h notice]

/-! ## The law -/

/-- The request that a notification makes after the attempts: to make an event
of it, or to count the one that was recorded first. -/
def requestAfter (attempts : List Attempt) (notice : Notice) : Publication :=
  match recordedAs attempts notice with
  | [] => ⟨notice, none⟩
  | first :: more => ⟨first.notice, some ((first :: more).length + 1)⟩

theorem publication_of_isLeftBy {attempts : List Attempt} {log : EventLog}
    (h : IsLeftBy attempts log) (notice : Notice) :
    log.publication notice = requestAfter attempts notice := by
  rw [publication, h notice, left?, requestAfter]
  rcases recordedAs attempts notice with _ | ⟨first, more⟩
  · rfl
  · rfl

/-- What comes of a notification after the attempts before it. -/
structure ComesAfter (statuses : List Nat) (before : List Attempt) (a : Attempt) : Prop where
  request : a.request = if (requestAfter before a.notice).isMakeable then
    some (requestAfter before a.notice) else none
  /-- It is an event now if it made a request that was granted. -/
  recorded : a.recorded = true ↔ a.request.isSome = true ∧
    ∀ status, statuses[(requests before).length]? = some status → status < 400

/-- The step: an attempt goes by what the attempts before it leave. -/
theorem comesAfter_attempt {before : List Attempt} {log : EventLog} (h : IsLeftBy before log)
    (notice : Notice) (statuses : List Nat) :
    ComesAfter statuses before
      (log.attempt notice (statuses.drop (requests before).length)) := by
  have hfailure : (!(statuses.drop (requests before).length).head?.any isFailure) = true ↔
      ∀ status, statuses[(requests before).length]? = some status → status < 400 := by
    rw [List.head?_drop]
    rcases statuses[(requests before).length]? with _ | status
    · simp
    · simp [isFailure]
  rw [attempt, publication_of_isLeftBy h notice]
  by_cases hmake : (requestAfter before notice).isMakeable = true
  · rw [if_pos hmake]
    exact ⟨(if_pos hmake).symm, ⟨fun hgranted => ⟨rfl, hfailure.mp hgranted⟩,
      fun hgranted => hfailure.mpr hgranted.2⟩⟩
  · rw [if_neg hmake]
    exact ⟨(if_neg hmake).symm, iff_of_false Bool.false_ne_true (fun hno => by cases hno.1)⟩

/-- The run: every attempt goes by the attempts before it. -/
theorem comesAfter_publish {statuses : List Nat} {notices : List Notice} {before : List Attempt}
    {log : EventLog} (h : IsLeftBy before log) {made rest : List Attempt} {a : Attempt}
    (hsplit : publish log notices (statuses.drop (requests before).length) = made ++ a :: rest) :
    ComesAfter statuses (before ++ made) a := by
  induction notices generalizing before log made with
  | nil => simp [publish] at hsplit
  | cons notice notices ih =>
    rw [publish_cons, List.drop_drop] at hsplit
    have hnext := h.snoc (log.attempt notice (statuses.drop (requests before).length))
    have hstep := comesAfter_attempt h notice statuses
    generalize log.attempt notice (statuses.drop (requests before).length) = x at *
    rw [← List.length_append, requests, requests, ← List.filterMap_append, ← requests] at hsplit
    cases made with
    | nil =>
      obtain ⟨rfl, _⟩ := List.cons.inj hsplit
      rw [List.append_nil]
      exact hstep
    | cons y made =>
      obtain ⟨rfl, hrest⟩ := List.cons.inj hsplit
      rw [List.append_cons]
      exact ih hnext hrest

/-- Where nothing has been published before, every notification is tried once,
in order, and goes by those before it. -/
theorem every_notification_is_tried_once (notices : List Notice) (statuses : List Nat) :
    (publish [] notices statuses).map (·.notice) = notices ∧
    ∀ before a rest, publish [] notices statuses = before ++ a :: rest →
      ComesAfter statuses before a := by
  have hnone : IsLeftBy [] [] := fun _ => rfl
  exact ⟨map_notice_publish [] notices statuses, fun _ _ _ hsplit =>
    comesAfter_publish hnone hsplit⟩

/-- An event is made once: after a recorded notification those that say the
same ask for no other event. -/
theorem an_event_is_made_once {notices : List Notice} {statuses : List Nat}
    {before between rest : List Attempt} {a b : Attempt}
    (hsplit : publish [] notices statuses = before ++ a :: between ++ b :: rest)
    (ha : a.recorded = true) (hsame : isSame a.notice b.notice = true) {p : Publication}
    (hp : b.request = some p) : p.count.isSome = true := by
  have hcomes := (every_notification_is_tried_once notices statuses).2 _ b rest hsplit
  have hmem : a ∈ recordedAs (before ++ a :: between) b.notice := by
    rw [recordedAs, List.mem_filter, ha, hsame]
    exact ⟨List.mem_append_right before List.mem_cons_self, rfl⟩
  rw [hcomes.request, Option.ite_none_right_eq_some, Option.some.injEq] at hp
  obtain ⟨_, rfl⟩ := hp
  obtain ⟨first, more, hfirst⟩ := List.exists_cons_of_ne_nil (List.ne_nil_of_mem hmem)
  rw [requestAfter, hfirst]
  rfl

end VolumeSync.EventLog
