import VolumeSync.Endpoint
import VolumeSync.Proofs.BelowBase
import VolumeSync.Proofs.DescriptorText
import VolumeSync.Proofs.RequestChains

-- Deliveries: an update that can be requested at all makes one request, and
-- what the server reads in its body is the descriptor. Other requests follow
-- it only where replies point to other places. Whether an update can be
-- requested depends on the base and on the token, and on nothing of the
-- descriptor but the length of the volume's name.

namespace VolumeSync.Endpoint

/-! ## What a request needs -/

/-- The URL leads to an HTTP server, by a name that a request may hold. -/
def isServed (url : Url) : Bool :=
  (url.scheme == "http".toList || url.scheme == "https".toList) && url.hasHost
    && !(url.host.any fun host => host.chars.any isOddInHost)

/-- The base is a usable one: what is below it leads to an HTTP server. -/
def isUsable (e : Endpoint) : Bool :=
  (Url.parse? (e.base ++ ('/' :: collection ++ ['/']))).any isServed

/-- A request can carry the token, if there is one. -/
def carriesToken (e : Endpoint) : Bool := e.token.all (·.toList.all isHeaderChar)

/-- The URL of the update is no longer in its normal form than a URL may be. -/
def fits (e : Endpoint) (kind : UpdateKind) (volumeId : String) : Bool :=
  (Url.parse? (e.volumeUrl kind volumeId)).all fun url =>
    url.withoutUser.text.utf8ByteSize ≤ Url.Target.maxLength

theorem isServed_top (url : Url) : isServed url.top = isServed url := rfl

theorem known_of_isServed {url : Url} (h : isServed url = true) :
    Url.isKnown url.scheme = true ∧ Url.isFile url.scheme = false := by
  simp only [isServed, Bool.and_eq_true, Bool.or_eq_true, beq_iff_eq] at h
  obtain ⟨⟨hscheme | hscheme, _⟩, _⟩ := h
  · rw [hscheme]
    decide
  · rw [hscheme]
    decide

/-- A URL with a host passes for a request's without its user if it leads to
an HTTP server and is short enough. -/
theorem sendable_iff (url : Url) :
    url.hasHost = true ∧ isSendable url.withoutUser = true ↔
      isServed url = true ∧ url.withoutUser.text.utf8ByteSize ≤ Url.Target.maxLength := by
  have hscheme : url.withoutUser.scheme = url.scheme := by
    unfold Url.withoutUser
    split
    · rfl
    · rfl
  have hhost : url.withoutUser.host = url.host := by
    unfold Url.withoutUser
    split
    · rfl
    · rfl
  simp only [isSendable, isServed, hscheme, hhost, Bool.and_eq_true, decide_eq_true_eq]
  constructor
  · rintro ⟨hhas, ⟨hhttp, hplain⟩, hshort⟩
    exact ⟨⟨⟨hhttp, hhas⟩, hplain⟩, hshort⟩
  · rintro ⟨⟨⟨hhttp, hhas⟩, hplain⟩, hshort⟩
    exact ⟨hhas, ⟨hhttp, hplain⟩, hshort⟩

/-! ## URLs below a base -/

/-- What follows the collection's name in the URL of an update. -/
def volumePart (kind : UpdateKind) (volumeId : String) : List Char :=
  Text.Percent.encode Text.Percent.isUnreserved volumeId.toList ++ '/' :: kind.word.toList

theorem volumeUrl_eq (e : Endpoint) (kind : UpdateKind) (volumeId : String) :
    e.volumeUrl kind volumeId =
      e.base ++ ('/' :: collection ++ '/' :: volumePart kind volumeId) := rfl

theorem ordinary_volumePart (kind : UpdateKind) (volumeId : String) :
    Url.Ordinary (volumePart kind volumeId) := by
  have hword : Url.Ordinary ('/' :: kind.word.toList) := by
    cases kind with
    | metadata => decide
    | tags => decide
  exact (Url.ordinary_encode _).append hword

theorem ordinary_collection : Url.Ordinary ('/' :: collection) := by decide

theorem ordinary_below_collection {s : List Char} (hs : Url.Ordinary s) :
    Url.Ordinary ('/' :: collection ++ '/' :: s) :=
  ordinary_collection.append (hs.cons (by decide))

/-- If anything below the collection leads to an HTTP server, everything below
it does. -/
theorem served_of_served {base s s' : List Char} (hs : Url.Ordinary s) (hs' : Url.Ordinary s')
    {url : Url} (hurl : Url.parse? (base ++ ('/' :: collection ++ '/' :: s)) = some url)
    (h : isServed url = true) :
    ∃ url', Url.parse? (base ++ ('/' :: collection ++ '/' :: s')) = some url' ∧
      isServed url' = true := by
  have hname : ∃ c ∈ '/' :: collection, c ≠ '/' ∧ c ≠ '\\' := ⟨'v', by decide, by decide⟩
  obtain ⟨rest, hscheme⟩ := Url.scheme_of_parse? (by simp) (ordinary_below_collection hs) hurl
  obtain ⟨hknown, hfile⟩ := known_of_isServed h
  have htop := Url.top_parse?_eq ordinary_collection hname hscheme hknown hfile hs hs'
  rw [hurl, Option.map_some] at htop
  obtain ⟨url', hurl', hsame⟩ := Option.map_eq_some_iff.mp htop.symm
  refine ⟨url', hurl', ?_⟩
  rw [← isServed_top, hsame, isServed_top, h]

theorem isUsable_iff (e : Endpoint) (kind : UpdateKind) (volumeId : String) :
    e.isUsable = true ↔
      ∃ url, Url.parse? (e.volumeUrl kind volumeId) = some url ∧ isServed url = true := by
  have hnil : Url.Ordinary [] := fun c hc => absurd hc List.not_mem_nil
  have hpart := ordinary_volumePart kind volumeId
  rw [isUsable, Option.any_eq_true]
  constructor
  · rintro ⟨url, hurl, h⟩
    exact served_of_served hnil hpart hurl h
  · rintro ⟨url, hurl, h⟩
    exact served_of_served hpart hnil hurl h

/-! ## Requests -/

/-- What an update sends if it sends anything. -/
def sentTo (url : Url) (e : Endpoint) (kind : UpdateKind) (d : Descriptor) : HttpRequest :=
  ⟨kind.method, url.withoutUser,
    (url.user?.map userLine).toList ++ (e.token.map tokenLine).toList, some "application/json",
    d.text⟩

/-- The checks that a request passes, in their order. -/
theorem request_of_parse? {e : Endpoint} {kind : UpdateKind} {d : Descriptor} {url : Url}
    (hurl : Url.parse? (e.volumeUrl kind d.volumeId) = some url) :
    e.request kind d =
      if url.hasHost = true then
        if e.token.all (·.toList.all isHeaderChar) = true then
          if isSendable url.withoutUser = true then .ok (sentTo url e kind d)
          else .error (.unusable url.withoutUser)
        else .error .unbuildable
      else .error (.unusable url) := by
  rw [request, hurl]
  dsimp only
  by_cases hhost : url.hasHost = true
  · rw [if_pos hhost, if_pos hhost]
    by_cases htoken : e.token.all (·.toList.all isHeaderChar) = true
    · rw [if_pos htoken, if_pos htoken]
      by_cases hsend : isSendable url.withoutUser = true
      · rw [if_pos hsend, if_pos hsend]
        rfl
      · rw [if_neg hsend, if_neg hsend]
        rfl
    · rw [if_neg htoken, if_neg htoken]
      rfl
  · rw [if_neg hhost, if_neg hhost]
    rfl

theorem request_eq_ok_iff {e : Endpoint} {kind : UpdateKind} {d : Descriptor}
    {sent : HttpRequest} :
    e.request kind d = .ok sent ↔
      ∃ url, Url.parse? (e.volumeUrl kind d.volumeId) = some url ∧ isServed url = true ∧
        e.carriesToken = true ∧ url.withoutUser.text.utf8ByteSize ≤ Url.Target.maxLength ∧
        sentTo url e kind d = sent := by
  have hguard : ∀ {c : Prop} [Decidable c] {x : Except HttpError HttpRequest} {err},
      (if c then x else .error err) = .ok sent ↔ c ∧ x = .ok sent := by
    intro c _ x err
    by_cases hc : c
    · simp [hc]
    · simp [hc]
  rcases hurl : Url.parse? (e.volumeUrl kind d.volumeId) with _ | url
  · simp only [reduceCtorEq, false_and, exists_false, iff_false]
    rw [request, hurl]
    intro h
    cases h
  · rw [request_of_parse? hurl, hguard, hguard, hguard, Except.ok.injEq]
    constructor
    · rintro ⟨hhost, htoken, hsend, hsent⟩
      obtain ⟨hserved, hshort⟩ := (sendable_iff url).mp ⟨hhost, hsend⟩
      exact ⟨url, rfl, hserved, htoken, hshort, hsent⟩
    · rintro ⟨_, heq, hserved, htoken, hshort, hsent⟩
      cases heq
      obtain ⟨hhost, hsend⟩ := (sendable_iff url).mpr ⟨hserved, hshort⟩
      exact ⟨hhost, htoken, hsend, hsent⟩

/-- An update can be requested exactly when the base is usable, the token can
be carried and the URL is not too long. -/
theorem exists_request_iff {e : Endpoint} {kind : UpdateKind} {d : Descriptor} :
    (∃ sent, e.request kind d = .ok sent) ↔
      e.isUsable = true ∧ e.carriesToken = true ∧ e.fits kind d.volumeId = true := by
  rw [isUsable_iff e kind d.volumeId, fits, Option.all_eq_true]
  constructor
  · rintro ⟨sent, h⟩
    obtain ⟨url, hurl, hserved, htoken, hshort, _⟩ := request_eq_ok_iff.mp h
    refine ⟨⟨url, hurl, hserved⟩, htoken, fun url' hurl' => ?_⟩
    obtain rfl := Option.some.inj (hurl.symm.trans hurl')
    exact decide_eq_true hshort
  · rintro ⟨⟨url, hurl, hserved⟩, htoken, hfits⟩
    have hshort := of_decide_eq_true (hfits url hurl)
    exact ⟨_, request_eq_ok_iff.mpr ⟨url, hurl, hserved, htoken, hshort, rfl⟩⟩

/-! ## The law -/

/-- How an update goes whose last reply leads nowhere else: well if the status
is in the two hundreds, and else with one error that tells of the reply. -/
def Decides (reply : HttpReply) (e : Endpoint) (kind : UpdateKind) (d : Descriptor)
    (result : Except UpdateError Unit) : Prop :=
  (result = .ok () ↔ 200 ≤ reply.status.code ∧ reply.status.code ≤ 299) ∧
  (¬(200 ≤ reply.status.code ∧ reply.status.code ≤ 299) → ∃ err, result = .error err ∧
    err.message = "Provider error: " ++ (kind.method.text ++ " "
      ++ String.ofList (e.volumeUrl kind d.volumeId) ++ " returned " ++ reply.status.text ++ ": "
      ++ reply.text))

/-- What servers get of an update, and what their replies mean. -/
structure Delivers (network : Network) (redirects : Redirects) (e : Endpoint) (kind : UpdateKind)
    (d : Descriptor) (sent : HttpRequest) : Prop where
  requested : e.request kind d = .ok sent
  method : sent.method.text = match kind with
    | .metadata => "PUT"
    | .tags => "PATCH"
  reads : Descriptor.ofText? sent.body = some d
  capacity : Descriptor.LeavesOut "capacity" sent.body ↔ d.capacity = none
  iops : Descriptor.LeavesOut "iops" sent.body ↔ d.iops = none
  first : ∀ reply, network [sent] = .answered reply →
    (e.update network redirects kind d).seen.head? = some sent
  /-- Without a redirect there is no other request. -/
  alone : ∀ reply, network [sent] = .answered reply → reply.isRedirect = false →
    (e.update network redirects kind d).seen = [sent] ∧
      Decides reply e kind d (e.update network redirects kind d).result
  /-- With redirects there are others, and each is where a reply leads. -/
  chain : ∃ before last, Exchange.Chain network redirects sent before last ∧
    before.length ≤ 10 ∧
    ((e.update network redirects kind d).seen = before ++ [last] ∨
      (e.update network redirects kind d).seen = before ∧
        network (before ++ [last]) = .unreachable)
  decided : ∀ reply,
    Exchange.IsLeft network redirects (e.update network redirects kind d).seen reply →
      Decides reply e kind d (e.update network redirects kind d).result
  succeeds : (e.update network redirects kind d).result = .ok () ↔
    (e.update network redirects kind d).seen ≠ [] ∧ ∃ reply,
      network (e.update network redirects kind d).seen = .answered reply ∧
      200 ≤ reply.status.code ∧ reply.status.code ≤ 299

theorem decides_judge (e : Endpoint) (kind : UpdateKind) (d : Descriptor) (reply : HttpReply) :
    Decides reply e kind d (e.judge kind d (.ok reply)) := by
  rw [Decides, ← HttpStatus.isSuccess_iff, judge]
  by_cases hsuccess : reply.status.isSuccess = true
  · rw [if_pos hsuccess]
    exact ⟨iff_of_true rfl hsuccess, fun hno => absurd hsuccess hno⟩
  · rw [if_neg hsuccess]
    exact ⟨iff_of_false (fun hok => by cases hok) hsuccess, fun _ => ⟨_, rfl, rfl⟩⟩

section Updates

variable (network : Network) (redirects : Redirects) {e : Endpoint} {kind : UpdateKind}
  {d : Descriptor} {sent : HttpRequest} (h : e.request kind d = .ok sent)

include h

theorem body_of_request : sent.body = d.text := by
  obtain ⟨_, _, _, _, _, rfl⟩ := request_eq_ok_iff.mp h
  rfl

theorem method_of_request : sent.method = kind.method := by
  obtain ⟨_, _, _, _, _, rfl⟩ := request_eq_ok_iff.mp h
  rfl

theorem seen_update :
    (e.update network redirects kind d).seen =
      (Exchange.ofRequest network redirects sent).seen := by
  simp only [update, h]

theorem result_update : (e.update network redirects kind d).result =
    e.judge kind d (Exchange.ofRequest network redirects sent).result := by
  simp only [update, h]

/-- The reply that is left decides how the update goes. -/
theorem result_of_isLeft {reply : HttpReply}
    (hleft : Exchange.IsLeft network redirects (e.update network redirects kind d).seen reply) :
    (e.update network redirects kind d).result = e.judge kind d (.ok reply) := by
  obtain ⟨before, last, hchain, _, hends⟩ := Exchange.ofRequest_endsAt network redirects sent
  rw [seen_update network redirects h] at hleft
  rw [result_update network redirects h, (Exchange.result_eq_ok_iff hchain hends).mpr hleft]

/-- Whether there was a redirect or not, an update goes well if the last reply
says so, and only then. -/
theorem result_eq_ok_iff : (e.update network redirects kind d).result = .ok () ↔
    (e.update network redirects kind d).seen ≠ [] ∧ ∃ reply,
      network (e.update network redirects kind d).seen = .answered reply ∧
      200 ≤ reply.status.code ∧ reply.status.code ≤ 299 := by
  constructor
  · intro hok
    obtain ⟨before, last, hchain, _, hends⟩ := Exchange.ofRequest_endsAt network redirects sent
    rw [result_update network redirects h] at hok
    rcases hresult : (Exchange.ofRequest network redirects sent).result with err | reply
    · rw [hresult] at hok
      cases hok
    · obtain ⟨final, hfinal, hanswer, _⟩ := (Exchange.result_eq_ok_iff hchain hends).mp hresult
      rw [hresult] at hok
      rw [seen_update network redirects h]
      refine ⟨?_, reply, hanswer, (decides_judge e kind d reply).1.mp hok⟩
      rintro hnil
      rw [hnil] at hfinal
      cases hfinal
  · rintro ⟨hne, reply, hanswer, hcode⟩
    have hsuccess := (HttpStatus.isSuccess_iff reply.status).mpr hcode
    have hplain : reply.isRedirect = false := by
      rw [HttpReply.isRedirect, HttpStatus.not_isRedirect_of_isSuccess hsuccess, Bool.false_and]
    have hleft : Exchange.IsLeft network redirects (e.update network redirects kind d).seen reply :=
      ⟨_, List.getLast?_eq_some_getLast hne, hanswer, redirects.next_of_not_redirect _ hplain⟩
    rw [result_of_isLeft network redirects h hleft]
    exact if_pos hsuccess

/-- An update that can be requested delivers its descriptor. -/
theorem delivers_of_request : Delivers network redirects e kind d sent := by
  have hbody := body_of_request h
  refine ⟨h, ?_, ?_, ?_, ?_, ?_, ?_, ?_, ?_, result_eq_ok_iff network redirects h⟩
  · rw [method_of_request h]
    cases kind with
    | metadata => rfl
    | tags => rfl
  · rw [hbody, Descriptor.ofText?_text]
  · rw [hbody, Descriptor.leavesOut_capacity]
  · rw [hbody, Descriptor.leavesOut_iops]
  · intro reply hanswer
    obtain ⟨before, last, hchain, _, hends⟩ := Exchange.ofRequest_endsAt network redirects sent
    rw [seen_update network redirects h]
    exact hends.head?_seen hchain hanswer
  · intro reply hanswer hreply
    rw [seen_update network redirects h, result_update network redirects h,
      Exchange.ofRequest_of_not_redirect hanswer hreply]
    exact ⟨rfl, decides_judge e kind d reply⟩
  · obtain ⟨before, last, hchain, hfew, hends⟩ := Exchange.ofRequest_endsAt network redirects sent
    rw [seen_update network redirects h]
    exact ⟨before, last, hchain, hfew, hends.seen⟩
  · intro reply hleft
    rw [result_of_isLeft network redirects h hleft]
    exact decides_judge e kind d reply

end Updates

/-- Whatever servers do with it, an update on a usable base, with a token that
a request can carry and a volume whose URL is not too long, sends one request,
and its body is read as the descriptor. No other request is seen unless a reply
points to another place, and the last reply decides how the update goes. The
body of a tombstone is that of no descriptor with a capacity or a rate. -/
theorem an_update_delivers_its_descriptor (network : Network) (redirects : Redirects)
    {e : Endpoint} (hbase : e.isUsable = true) (htoken : e.carriesToken = true)
    (kind : UpdateKind) {d : Descriptor} (hfits : e.fits kind d.volumeId = true) :
    ∃ sent, Delivers network redirects e kind d sent ∧
      (d.capacity ≠ none ∨ d.iops ≠ none →
        ∀ (site : Site) (s : Snapshot), s.phase.isReleased = true →
          ∀ (e' : Endpoint) (kind' : UpdateKind) (tomb : HttpRequest),
            e'.request kind' (site.describe s) = .ok tomb → tomb.body ≠ sent.body) := by
  obtain ⟨sent, hsent⟩ := exists_request_iff.mpr ⟨hbase, htoken, hfits⟩
  refine ⟨sent, delivers_of_request network redirects hsent, ?_⟩
  intro hvalued site s hreleased e' kind' tomb htomb heq
  rw [body_of_request htomb, body_of_request hsent, Descriptor.text_inj] at heq
  have hnone : (site.describe s).capacity = none ∧ (site.describe s).iops = none := by
    rw [Site.describe, if_pos hreleased]
    exact ⟨rfl, rfl⟩
  rw [heq] at hnone
  rcases hvalued with hvalued | hvalued
  · exact hvalued hnone.1
  · exact hvalued hnone.2

/-- Tags with no capacity behind them, an empty rate and a name that is no
ASCII reach a server that replies without content. -/
theorem an_update_with_an_empty_rate :
    let network : Network := fun _ => .answered ⟨⟨204⟩, none, ""⟩
    let redirects : Redirects := fun _ _ => .ok none
    let e := below "http://h/v1/" (some "t") "vpc-classic"
    let d : Descriptor :=
      ⟨"vol ü", "vpc-classic", "block", "crn", ["a:b"], none, some "", .ofList []⟩
    e.isUsable = true ∧ e.carriesToken = true ∧ e.fits .tags d.volumeId = true ∧
      (e.update network redirects .tags d).result = .ok () := by
  intro network redirects e d
  have hbase : e.isUsable = true := by decide
  have htoken : e.carriesToken = true := by decide
  have hfits : e.fits .tags d.volumeId = true := by decide +kernel
  obtain ⟨sent, hsent, _⟩ :=
    an_update_delivers_its_descriptor network redirects hbase htoken .tags hfits
  exact ⟨hbase, htoken, hfits, (hsent.alone _ rfl rfl).2.1.mpr ⟨by decide, by decide⟩⟩

/-! ## Names that are too long -/

/-- Below this base a name of letters is a segment of the path as it is. -/
theorem parse?_of_letters {volumeId : String} (hlong : 6 < volumeId.toList.length)
    (hletters : ∀ c ∈ volumeId.toList, c = 'a') :
    Url.parse? ((below "http://h" none "p").volumeUrl .metadata volumeId) =
      some ⟨"http".toList, [], [], some (.name "h".toList), none,
        .segments [collection, volumeId.toList, "metadata".toList], none, none⟩ := by
  have hencoded : Text.Percent.encode Text.Percent.isUnreserved volumeId.toList = volumeId.toList :=
    Url.encode_of_forall fun c hc => by rw [hletters c hc]; decide
  have hkept : Text.Percent.encode Url.keepInPath volumeId.toList = volumeId.toList :=
    Url.encode_of_forall fun c hc => by rw [hletters c hc]; decide
  have hscheme : Url.scheme? (Url.lead (below "http://h" none "p").base) =
      some ("http".toList, "//h".toList) := by decide
  have hplace : ∀ s, Url.place? "http".toList ("//h/volumes".toList ++ '/' :: s) false =
      some ⟨"http".toList, [], [], some (.name "h".toList), none,
        Url.hierarchy "http".toList ("/volumes".toList ++ '/' :: s), none, none⟩ := by
    intro s
    rw [Url.place?_append (by decide) (by decide) (by decide)]
    rfl
  have hone : volumeId.toList.splitOnP (Url.isSlash "http".toList) = [volumeId.toList] :=
    List.splitOnP_eq_singleton fun c hc => by rw [hletters c hc]; decide
  have hpath :
      Url.hierarchy "http".toList ("/volumes".toList ++ '/' :: volumePart .metadata volumeId) =
        .segments [collection, volumeId.toList, "metadata".toList] := by
    rw [volumePart, hencoded]
    change Url.Path.segments (Url.addSegments [] (("volumes".toList ++
      '/' :: (volumeId.toList ++ '/' :: "metadata".toList)).splitOnP
        (Url.isSlash "http".toList))) = _
    rw [List.splitOnP_append_cons _ _ (by decide), List.splitOnP_append_cons _ _ (by decide), hone]
    change Url.Path.segments (Url.addSegments []
      [collection, volumeId.toList, "metadata".toList]) = _
    rw [Url.addSegments_cons (by decide), Url.addSegments_cons (Url.isPlain_of_length hlong),
      Url.addSegments_cons (by decide), hkept]
    rfl
  rw [volumeUrl_eq,
    Url.parse?_append_of_bare (by simp)
      (ordinary_below_collection (ordinary_volumePart .metadata volumeId)) hscheme rfl rfl]
  change (Url.place? "http".toList ("//h/volumes".toList ++ '/' :: volumePart .metadata volumeId)
    false).map _ = _
  rw [hplace, hpath]
  rfl

theorem not_fits_of_letters {volumeId : String}
    (hlong : Url.Target.maxLength ≤ volumeId.toList.length)
    (hletters : ∀ c ∈ volumeId.toList, c = 'a') :
    (below "http://h" none "p").fits .metadata volumeId = false := by
  have hlen : 6 < volumeId.toList.length := Nat.lt_of_lt_of_le (by decide) hlong
  rw [fits, parse?_of_letters hlen hletters]
  rw [Option.all_some, decide_eq_false_iff_not, Nat.not_le]
  refine Nat.lt_of_lt_of_le ?_ (Url.length_le_utf8ByteSize _)
  rw [Url.withoutUser, ite_self]
  simp only [Url.chars, Url.pathChars, Url.segmentChars, List.flatMap_cons, List.length_append,
    List.length_cons]
  omega

/-! ## No request, and more than one -/

/-- The library goes on with the same request at the place that a reply points
to, as it does where the place is on the same server and the method is to be
kept. -/
def sameElsewhere : Redirects := fun sent reply =>
  .ok ((reply.location.bind fun place => Url.parse? place.toList).map fun url =>
    { sent with url })

/-- The first request is sent on, and the second one goes well. -/
def sendsOn : Network := fun seen =>
  if seen.length = 1 then .answered ⟨⟨307⟩, some "http://h/w", ""⟩ else .answered ⟨⟨200⟩, none, ""⟩

theorem ofRequest_sendsOn (sent : HttpRequest) : ∃ next,
    Exchange.ofRequest sendsOn sameElsewhere sent = ⟨[sent, next], .ok ⟨⟨200⟩, none, ""⟩⟩ := by
  obtain ⟨url, hurl⟩ : ∃ url, Url.parse? "http://h/w".toList = some url :=
    Option.isSome_iff_exists.mp (by decide +kernel)
  have hnext : sameElsewhere.next sent ⟨⟨307⟩, some "http://h/w", ""⟩ =
      .ok (some { sent with url }) := by
    rw [Redirects.next, if_pos (by decide), sameElsewhere, Option.bind_some, hurl, Option.map_some]
  refine ⟨{ sent with url }, ?_⟩
  rw [Exchange.ofRequest, Exchange.maxHops, Exchange.run_of_led (by rfl) hnext]
  exact Exchange.run_of_kept (by rfl) (sameElsewhere.next_of_not_redirect _ (by decide))

/-- On a usable base, a volume with so long a name that none of its updates is
sent; and an update that is sent on, so that servers see two requests, and it
goes well although its own request was answered with no success. -/
theorem an_update_that_is_not_sent_and_one_that_is_sent_on :
    let e := below "http://h" none "p"
    let named (name : String) : Descriptor := ⟨name, "p", "t", "", [], none, none, .ofList []⟩
    let long := named (String.ofList (List.replicate 65534 'a'))
    let short := named "a"
    e.isUsable = true ∧ e.carriesToken = true ∧
      (∀ network redirects, (e.update network redirects .metadata long).seen = [] ∧
        (e.update network redirects .metadata long).result ≠ .ok ()) ∧
      e.fits .metadata short.volumeId = true ∧
      ∃ sent next, e.request .metadata short = .ok sent ∧
        sendsOn [sent] = .answered ⟨⟨307⟩, some "http://h/w", ""⟩ ∧
        (e.update sendsOn sameElsewhere .metadata short).seen = [sent, next] ∧
        (e.update sendsOn sameElsewhere .metadata short).result = .ok () := by
  intro e named long short
  have hname : long.volumeId.toList = List.replicate 65534 'a' := String.toList_ofList
  have hlong : e.fits .metadata long.volumeId = false := by
    refine not_fits_of_letters ?_ ?_
    · rw [hname, List.length_replicate]
      exact Nat.le_refl _
    · rw [hname]
      exact fun c hc => List.eq_of_mem_replicate hc
  have hfits : e.fits .metadata short.volumeId = true := by decide +kernel
  refine ⟨by decide, rfl, fun network redirects => ?_, hfits, ?_⟩
  · rcases hsent : e.request .metadata long with err | sent
    · rw [update, hsent]
      exact ⟨rfl, fun hok => by cases hok⟩
    · have hshort := (exists_request_iff.mp ⟨sent, hsent⟩).2.2
      rw [hlong] at hshort
      cases hshort
  · obtain ⟨sent, hsent⟩ := exists_request_iff.mpr ⟨(by decide : e.isUsable = true), rfl, hfits⟩
    obtain ⟨next, hrun⟩ := ofRequest_sendsOn sent
    refine ⟨sent, next, hsent, rfl, ?_, ?_⟩
    · rw [seen_update sendsOn sameElsewhere hsent, hrun]
    · rw [result_update sendsOn sameElsewhere hsent, hrun]
      rfl

end VolumeSync.Endpoint
