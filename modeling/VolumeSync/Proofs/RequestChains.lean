import VolumeSync.Http

-- Chains of requests. Whatever servers reply and however the library goes on
-- from redirects, a chain begins with the request that was asked for, every
-- other one is where the reply to the chain before it leads, there are eleven
-- at most, and the reply that is left is the one to the last.

namespace VolumeSync

namespace HttpStatus

theorem isSuccess_iff (status : HttpStatus) :
    status.isSuccess = true ↔ 200 ≤ status.code ∧ status.code ≤ 299 := by
  simp only [isSuccess, Bool.and_eq_true, decide_eq_true_eq]
  omega

theorem not_isRedirect_of_isSuccess {status : HttpStatus} (h : status.isSuccess = true) :
    status.isRedirect = false := by
  obtain ⟨_, hmost⟩ := (isSuccess_iff status).mp h
  simp only [isRedirect, List.contains_eq_mem, decide_eq_false_iff_not, List.mem_cons,
    List.not_mem_nil, or_false]
  omega

end HttpStatus

theorem Redirects.next_of_not_redirect (redirects : Redirects) (sent : HttpRequest)
    {reply : HttpReply} (h : reply.isRedirect = false) : redirects.next sent reply = .ok none :=
  if_neg (Bool.eq_false_iff.mp h)

namespace Exchange

/-! ## Chains -/

/-- The requests are a chain, and the one that is sent after them comes next in
it. -/
inductive Chain (network : Network) (redirects : Redirects) (first : HttpRequest) :
    List HttpRequest → HttpRequest → Prop where
  | first : Chain network redirects first [] first
  | next {before : List HttpRequest} {sent next : HttpRequest} {reply : HttpReply}
      (h : Chain network redirects first before sent)
      (hreply : network (before ++ [sent]) = .answered reply)
      (hnext : redirects.next sent reply = .ok (some next)) :
      Chain network redirects first (before ++ [sent]) next

/-- What a chain comes to whose last request is sent after those before it. -/
inductive EndsAt (network : Network) (redirects : Redirects) (before : List HttpRequest)
    (last : HttpRequest) : Exchange → Prop where
  | unreachable (h : network (before ++ [last]) = .unreachable) :
      EndsAt network redirects before last ⟨before, .error (.unreachable last.url)⟩
  | replied {reply : HttpReply} (h : network (before ++ [last]) = .answered reply)
      (hnext : redirects.next last reply = .ok none) :
      EndsAt network redirects before last ⟨before ++ [last], .ok reply⟩
  | refused {reply : HttpReply} {err : HttpError} (h : network (before ++ [last]) = .answered reply)
      (hnext : redirects.next last reply = .error err) :
      EndsAt network redirects before last ⟨before ++ [last], .error err⟩
  | misled {reply : HttpReply} {next : HttpRequest}
      (h : network (before ++ [last]) = .answered reply)
      (hnext : redirects.next last reply = .ok (some next)) (hfull : before.length = maxHops) :
      EndsAt network redirects before last ⟨before ++ [last], .error (.misled last.url)⟩

/-- The reply is the one to the last of the requests, and leads nowhere else. -/
def IsLeft (network : Network) (redirects : Redirects) (seen : List HttpRequest)
    (reply : HttpReply) : Prop :=
  ∃ last, seen.getLast? = some last ∧ network seen = .answered reply ∧
    redirects.next last reply = .ok none

section Chains

variable {network : Network} {redirects : Redirects} {first sent : HttpRequest}
  {before : List HttpRequest}

theorem Chain.head? (h : Chain network redirects first before sent) :
    (before ++ [sent]).head? = some first := by
  induction h with
  | first => rfl
  | next _ _ _ ih =>
    rw [List.head?_append, ih]
    rfl

/-- What stands before a request of the chain ends with the one whose reply
leads to it. -/
theorem Chain.led (h : Chain network redirects first before sent) {last : HttpRequest}
    (hlast : before.getLast? = some last) : ∃ reply, network before = .answered reply ∧
      redirects.next last reply = .ok (some sent) := by
  cases h with
  | first => cases hlast
  | next h hreply hnext =>
    rw [List.getLast?_concat] at hlast
    cases hlast
    exact ⟨_, hreply, hnext⟩

/-- A request ends the chain, or its reply leads to the next one and a hop is
left for that. -/
theorem endsAt_or_next (network : Network) (redirects : Redirects) (hops : Nat)
    (before : List HttpRequest) (sent : HttpRequest) (hhops : before.length + hops = maxHops) :
    EndsAt network redirects before sent (run network redirects hops before sent) ∨
      ∃ reply next left, network (before ++ [sent]) = .answered reply ∧
        redirects.next sent reply = .ok (some next) ∧ hops = left + 1 ∧
        run network redirects hops before sent =
          run network redirects left (before ++ [sent]) next := by
  rw [run]
  rcases hanswer : network (before ++ [sent]) with reply | _
  · dsimp only
    rcases hnext : redirects.next sent reply with err | next | next
    · exact .inl (.refused hanswer hnext)
    · exact .inl (.replied hanswer hnext)
    · cases hops with
      | zero => exact .inl (.misled hanswer hnext hhops)
      | succ left => exact .inr ⟨reply, next, left, rfl, hnext, rfl, rfl⟩
  · exact .inl (.unreachable hanswer)

/-- One request after the other the chain goes on, until it ends. -/
theorem exists_endsAt {hops : Nat} (h : Chain network redirects first before sent)
    (hhops : before.length + hops = maxHops) :
    ∃ before' last, Chain network redirects first before' last ∧ before'.length ≤ maxHops ∧
      EndsAt network redirects before' last (run network redirects hops before sent) := by
  induction hops generalizing before sent with
  | zero =>
    rcases endsAt_or_next network redirects 0 before sent hhops with hends |
      ⟨_, _, _, _, _, hzero, _⟩
    · exact ⟨before, sent, h, by omega, hends⟩
    · cases hzero
  | succ hops ih =>
    rcases endsAt_or_next network redirects (hops + 1) before sent hhops with hends |
      ⟨reply, next, left, hanswer, hnext, hsucc, hrun⟩
    · exact ⟨before, sent, h, by omega, hends⟩
    · cases hsucc
      rw [hrun]
      refine ih (.next h hanswer hnext) ?_
      rw [List.length_append, List.length_singleton]
      omega

/-- Every request has a chain that ends. -/
theorem ofRequest_endsAt (network : Network) (redirects : Redirects) (first : HttpRequest) :
    ∃ before last, Chain network redirects first before last ∧ before.length ≤ maxHops ∧
      EndsAt network redirects before last (ofRequest network redirects first) :=
  exists_endsAt .first (Nat.zero_add maxHops)

/-! ## What is left of a chain -/

/-- The requests that servers saw: all of the chain, or all but the last. -/
theorem EndsAt.seen {last : HttpRequest} {x : Exchange}
    (h : EndsAt network redirects before last x) :
    x.seen = before ++ [last] ∨
      x.seen = before ∧ network (before ++ [last]) = .unreachable := by
  cases h with
  | unreachable h => exact .inr ⟨rfl, h⟩
  | replied _ _ => exact .inl rfl
  | refused _ _ => exact .inl rfl
  | misled _ _ _ => exact .inl rfl

/-- The request that was asked for is seen first, if there is a reply to it. -/
theorem EndsAt.head?_seen {x : Exchange} {last : HttpRequest}
    (h : EndsAt network redirects before last x)
    (hchain : Chain network redirects first before last) {reply : HttpReply}
    (hreply : network [first] = .answered reply) :
    x.seen.head? = some first := by
  have hhead := hchain.head?
  rcases h.seen with hseen | ⟨hseen, hanswer⟩
  · rw [hseen, hhead]
  · rw [hseen]
    cases before with
    | nil =>
      cases hhead
      cases hreply.symm.trans hanswer
    | cons => exact hhead

theorem isLeft_concat {last : HttpRequest} {reply : HttpReply} :
    IsLeft network redirects (before ++ [last]) reply ↔
      network (before ++ [last]) = .answered reply ∧ redirects.next last reply = .ok none := by
  simp only [IsLeft, List.getLast?_concat, Option.some.injEq, exists_eq_left']

/-- No reply is left to the requests before another one of the chain. -/
theorem Chain.not_isLeft (h : Chain network redirects first before sent) {reply : HttpReply} :
    ¬IsLeft network redirects before reply := by
  rintro ⟨last, hlast, hanswer, hkept⟩
  obtain ⟨_, hanswer', hled⟩ := h.led hlast
  cases hanswer.symm.trans hanswer'
  cases hkept.symm.trans hled

/-- A chain results in the reply that is left, if there is one. -/
theorem result_eq_ok_iff {x : Exchange} {last : HttpRequest}
    (hchain : Chain network redirects first before last)
    (h : EndsAt network redirects before last x) {reply : HttpReply} :
    x.result = .ok reply ↔ IsLeft network redirects x.seen reply := by
  cases h with
  | unreachable h => exact iff_of_false (fun hok => by cases hok) hchain.not_isLeft
  | replied h hnext =>
    rw [isLeft_concat]
    constructor
    · rintro ⟨⟩
      exact ⟨h, hnext⟩
    · rintro ⟨hanswer, _⟩
      cases h.symm.trans hanswer
      rfl
  | refused h hnext =>
    rw [isLeft_concat]
    refine iff_of_false (fun hok => by cases hok) ?_
    rintro ⟨hanswer, hkept⟩
    cases h.symm.trans hanswer
    cases hnext.symm.trans hkept
  | misled h hnext _ =>
    rw [isLeft_concat]
    refine iff_of_false (fun hok => by cases hok) ?_
    rintro ⟨hanswer, hkept⟩
    cases h.symm.trans hanswer
    cases hnext.symm.trans hkept

/-! ## Single steps -/

theorem run_of_led {hops : Nat} {reply : HttpReply} {next : HttpRequest}
    (h : network (before ++ [sent]) = .answered reply)
    (hnext : redirects.next sent reply = .ok (some next)) :
    run network redirects (hops + 1) before sent =
      run network redirects hops (before ++ [sent]) next := by
  rw [run, h]
  dsimp only
  rw [hnext]

theorem run_of_kept {hops : Nat} {reply : HttpReply}
    (h : network (before ++ [sent]) = .answered reply)
    (hnext : redirects.next sent reply = .ok none) :
    run network redirects hops before sent = ⟨before ++ [sent], .ok reply⟩ := by
  rw [run, h]
  dsimp only
  rw [hnext]

/-- A reply that points nowhere else ends the chain at once. -/
theorem ofRequest_of_not_redirect {reply : HttpReply} (h : network [first] = .answered reply)
    (hreply : reply.isRedirect = false) :
    ofRequest network redirects first = ⟨[first], .ok reply⟩ :=
  run_of_kept h (redirects.next_of_not_redirect first hreply)

end Chains

end Exchange

end VolumeSync
