import VolumeSync.PersistentVolume
import VolumeSync.Proofs.Delivery

-- Where an update goes. The name of a volume is encoded, so that it is one
-- segment of the path whatever characters are in it; only a name of dots is
-- left as it is, and dots are no segment but a way up.

namespace VolumeSync

namespace Url

/-! ## Dots in encoded names -/

/-- A name in percent-encoding, its letters in lower case. -/
def lowered (name : List Char) : List Char :=
  (Text.Percent.encode Text.Percent.isUnreserved name).map Char.toLower

theorem eq_of_toLower_eq {c x : Char} (hx : x.isLower = false) (h : c.toLower = x) : c = x := by
  unfold Char.toLower at h
  split at h
  · rename_i hupper
    obtain ⟨hleast, hmost⟩ := hupper
    subst h
    change (decide (c.val + ('a'.val - 'A'.val) ≥ 'a'.val) &&
      decide (c.val + ('a'.val - 'A'.val) ≤ 'z'.val)) = false at hx
    simp only [Bool.and_eq_false_iff, decide_eq_false_iff_not, ge_iff_le,
      UInt32.le_iff_toNat_le, UInt32.toNat_add, UInt32.toNat_sub, Char.reduceVal,
      UInt32.reduceToNat] at hx hleast hmost
    omega
  · exact h

/-- No other character begins with the byte of a dot. -/
theorem eq_dot_of_utf8EncodeChar {c : Char} {rest : List UInt8}
    (h : String.utf8EncodeChar c = 0x2E :: rest) : c = '.' := by
  have hfirst : ∀ {n : Nat} {more : List UInt8}, UInt8.ofNat n :: more = 0x2E :: rest →
      n % 256 = 46 := by
    intro n more h
    exact congrArg UInt8.toNat (List.cons.inj h).1
  unfold String.utf8EncodeChar at h
  dsimp only at h
  split at h
  · have hvalue := hfirst h
    refine Char.toNat_inj.mp ?_
    change c.val.toNat = 46
    omega
  -- The first of several bytes is 192 or more.
  split at h
  · have hvalue := hfirst h
    omega
  split at h
  · have hvalue := hfirst h
    omega
  · have hvalue := hfirst h
    omega

/-- The two digits of an encoded dot are those of its byte. -/
theorem eq_dot_of_digits {b : UInt8} (hhigh : (Text.upperHexDigit (b.toNat / 16)).toLower = '2')
    (hlow : (Text.upperHexDigit (b.toNat % 16)).toLower = 'e') : b = 0x2E := by
  have htwo : ∀ m ∈ List.range 16, (Text.upperHexDigit m).toLower = '2' → m = 2 := by decide
  have hfourteen : ∀ m ∈ List.range 16, (Text.upperHexDigit m).toLower = 'e' → m = 14 := by decide
  have hlt := b.toNat_lt
  have hdiv := htwo _ (List.mem_range.mpr (by omega)) hhigh
  have hmod := hfourteen _ (List.mem_range.mpr (by omega)) hlow
  refine UInt8.toNat_inj.mp ?_
  change b.toNat = 46
  omega

/-- A name begins with a character that is left as it is, or with the first
byte of one that is not. -/
theorem lowered_cons (c : Char) (cs : List Char) :
    lowered (c :: cs) = c.toLower :: lowered cs ∧ Text.Percent.isUnreserved c = true ∨
      ∃ b bytes rest, String.utf8EncodeChar c = b :: bytes ∧ Text.Percent.isUnreserved c = false ∧
        lowered (c :: cs) = '%' :: (Text.upperHexDigit (b.toNat / 16)).toLower ::
          (Text.upperHexDigit (b.toNat % 16)).toLower :: rest := by
  unfold lowered Text.Percent.encode
  rw [List.flatMap_cons, List.map_append]
  unfold Text.Percent.char
  by_cases hkeep : Text.Percent.isUnreserved c = true
  · rw [if_pos hkeep]
    exact .inl ⟨rfl, hkeep⟩
  · rw [if_neg hkeep]
    rcases hbytes : String.utf8EncodeChar c with _ | ⟨b, bytes⟩
    · exact absurd hbytes String.utf8EncodeChar_ne_nil
    · exact .inr ⟨b, bytes, _, rfl, Bool.eq_false_iff.mpr hkeep, rfl⟩

theorem lowered_eq_nil_iff {name : List Char} : lowered name = [] ↔ name = [] := by
  constructor
  · intro h
    rcases name with _ | ⟨c, cs⟩
    · rfl
    · rcases lowered_cons c cs with ⟨hkept, _⟩ | ⟨b, bytes, rest, _, _, hbyte⟩
      · rw [hkept] at h
        cases h
      · rw [hbyte] at h
        cases h
  · rintro rfl
    rfl

theorem lowered_eq_dot_cons_iff {name rest : List Char} :
    lowered name = '.' :: rest ↔ ∃ cs, name = '.' :: cs ∧ lowered cs = rest := by
  constructor
  · intro h
    rcases name with _ | ⟨c, cs⟩
    · cases h
    · rcases lowered_cons c cs with ⟨hkept, _⟩ | ⟨b, bytes, rest, _, _, hbyte⟩
      · rw [hkept] at h
        obtain ⟨hc, hcs⟩ := List.cons.inj h
        exact ⟨cs, by rw [eq_of_toLower_eq rfl hc], hcs⟩
      · rw [hbyte] at h
        cases h
  · rintro ⟨cs, rfl, rfl⟩
    rfl

/-- A dot is never encoded. -/
theorem lowered_ne_encoded_dot (name rest : List Char) :
    lowered name ≠ '%' :: '2' :: 'e' :: rest := by
  intro h
  rcases name with _ | ⟨c, cs⟩
  · cases h
  · rcases lowered_cons c cs with ⟨hkept, hkeep⟩ | ⟨b, bytes, rest, hbytes, hkeep, hbyte⟩
    · rw [hkept] at h
      rw [eq_of_toLower_eq rfl (List.cons.inj h).1] at hkeep
      cases hkeep
    · rw [hbyte] at h
      simp only [List.cons.injEq, true_and] at h
      rw [eq_dot_of_digits h.1 h.2.1] at hbytes
      rw [eq_dot_of_utf8EncodeChar hbytes] at hkeep
      cases hkeep

theorem ofList_lowered_eq_iff {name : List Char} {dots : String} :
    String.ofList (lowered name) = dots ↔ lowered name = dots.toList := by
  rw [← String.toList_inj, String.toList_ofList]

theorem isSingleDot_encode_iff (name : List Char) :
    isSingleDot (Text.Percent.encode Text.Percent.isUnreserved name) = true ↔ name = ['.'] := by
  change ["." , "%2e"].contains (String.ofList (lowered name)) = true ↔ _
  simp [ofList_lowered_eq_iff, lowered_eq_dot_cons_iff, lowered_eq_nil_iff, lowered_ne_encoded_dot]

theorem isDoubleDot_encode_iff (name : List Char) :
    isDoubleDot (Text.Percent.encode Text.Percent.isUnreserved name) = true ↔
      name = ['.', '.'] := by
  change ["..", ".%2e", "%2e.", "%2e%2e"].contains (String.ofList (lowered name)) = true ↔ _
  simp [ofList_lowered_eq_iff, lowered_eq_dot_cons_iff, lowered_eq_nil_iff, lowered_ne_encoded_dot]

theorem isPlain_encode {name : List Char} (hone : name ≠ ['.']) (htwo : name ≠ ['.', '.']) :
    IsPlain (Text.Percent.encode Text.Percent.isUnreserved name) := by
  constructor
  · exact Bool.eq_false_iff.mpr fun h => htwo ((isDoubleDot_encode_iff name).mp h)
  · exact Bool.eq_false_iff.mpr fun h => hone ((isSingleDot_encode_iff name).mp h)

/-! ## Paths behind a slash -/

/-- Segments that have others behind them leave what those are put behind. -/
theorem addSegments_append (before written : List (List Char)) {after : List (List Char)}
    (hafter : after ≠ []) :
    addSegments before (written ++ after) =
      addSegments (written.foldl (fun segments w => addSegment segments w false) before) after := by
  induction written generalizing before with
  | nil => rfl
  | cons w written ih =>
    rw [List.cons_append, addSegments, ih, List.foldl_cons]
    simp [hafter]

/-- What a slash follows in a path is the same whatever follows the slash. -/
theorem exists_hierarchy (scheme before : List Char) :
    ∃ front, ∀ cs, hierarchy scheme (before ++ '/' :: cs) =
      .segments (addSegments front (cutAtSlashes (isSlash scheme) cs)) := by
  have hslash : isSlash scheme '/' = true := rfl
  have hbehind : ∀ text : List Char, ∃ front, ∀ cs,
      segmentsOf (isSlash scheme) (text ++ '/' :: cs) =
        addSegments front (cutAtSlashes (isSlash scheme) cs) := by
    intro text
    refine ⟨(text.splitOnP (isSlash scheme)).foldl
      (fun segments w => addSegment segments w false) [], fun cs => ?_⟩
    unfold segmentsOf cutAtSlashes
    rw [List.splitOnP_append_cons text cs hslash,
      addSegments_append [] _ (List.splitOnP_ne_nil _ _)]
  rcases before with _ | ⟨c, text⟩
  · exact ⟨[], fun cs => rfl⟩
  · by_cases hc : isSlash scheme c = true
    · obtain ⟨front, hfront⟩ := hbehind text
      refine ⟨front, fun cs => ?_⟩
      rw [← hfront cs, List.cons_append]
      simp [hierarchy, hc]
    · obtain ⟨front, hfront⟩ := hbehind (c :: text)
      refine ⟨front, fun cs => ?_⟩
      rw [← hfront cs, List.cons_append]
      simp [hierarchy, hc]

/-- A character that stands for itself in a name does so in a path. -/
theorem keepInPath_of_isUnreserved {c : Char} (h : Text.Percent.isUnreserved c = true) :
    keepInPath c = true := by
  have hprinting := isPrinting_of_isUnreserved h
  have hodd : "\"<>\x60#?\x7b\x7d".toList.any Text.Percent.isUnreserved = false := by decide
  have hplain : "\"<>\x60#?\x7b\x7d".toList.contains c = false := by
    refine Bool.eq_false_iff.mpr fun hmem => ?_
    rw [List.any_eq_true.mpr ⟨c, List.contains_iff_mem.mp hmem, h⟩] at hodd
    cases hodd
  unfold isPrinting at hprinting
  unfold keepInPath
  rw [hprinting, hplain]
  rfl

/-- An encoded name is not encoded again. -/
theorem encode_keepInPath_encode (name : List Char) :
    Text.Percent.encode keepInPath (Text.Percent.encode Text.Percent.isUnreserved name) =
      Text.Percent.encode Text.Percent.isUnreserved name :=
  encode_of_forall
    (forall_mem_encode (fun _ => keepInPath_of_isUnreserved) (by decide) (by decide) name)

/-- No character is a slash of any scheme. -/
def SlashFree (cs : List Char) : Prop := ∀ c ∈ cs, c ≠ '/' ∧ c ≠ '\\'

instance (cs : List Char) : Decidable (SlashFree cs) := List.decidableBAll _ cs

theorem splitOnP_of_slashFree {scheme cs : List Char} (h : SlashFree cs) :
    cs.splitOnP (isSlash scheme) = [cs] := by
  refine List.splitOnP_eq_singleton fun c hc => ?_
  obtain ⟨hslash, hback⟩ := h c hc
  simp [isSlash, hslash, hback]

theorem slashFree_encode (name : List Char) :
    SlashFree (Text.Percent.encode Text.Percent.isUnreserved name) := by
  refine forall_mem_encode ?_ (by decide) (by decide) name
  intro c hc
  constructor
  · rintro rfl
    cases hc
  · rintro rfl
    cases hc

/-! ## Below a root -/

theorem cutAt_eq_of_none {mark : Char} {cs : List Char} (h : (cutAt mark cs).2 = none) :
    cutAt mark cs = (cs, none) := by
  unfold cutAt at h ⊢
  rcases hrest : cs.dropWhile (· != mark) with _ | ⟨c, after⟩
  · rfl
  · rw [hrest] at h
    cases h

/-- Slashes alone are no place. -/
theorem place?_of_slashes {scheme cs : List Char} (hknown : isKnown scheme = true)
    (hfile : isFile scheme = false) (h : cs.dropWhile (isSlash scheme) = []) (more : Bool) :
    place? scheme cs more = none := by
  unfold place?
  dsimp only
  rw [hfile, hknown, h]
  simp [authority?, cutAtLastAt, cutAt, cutPortNumber, hknown]

/-- A URL without a query and without a fragment has the signs of neither. -/
theorem bare_of_behindScheme? {scheme rest tail : List Char} (hsharp : '#' ∉ tail)
    (hmark : '?' ∉ tail) {url : Url} (h : behindScheme? scheme (rest ++ tail) = some url)
    (hquery : url.query = none) (hfragment : url.fragment = none) :
    cutAt '#' rest = (rest, none) ∧ cutAt '?' rest = (rest, none) := by
  unfold behindScheme? at h
  rw [cutAt_append hsharp] at h
  have hfree : cutAt '#' rest = (rest, none) := by
    refine cutAt_eq_of_none ?_
    rcases hcut : cutAt '#' rest with ⟨before, _ | after⟩
    · rfl
    · rw [hcut] at h
      obtain ⟨made, _, hmade⟩ := Option.bind_eq_some_iff.mp h
      rw [← Option.some.inj hmade] at hfragment
      cases hfragment
  refine ⟨hfree, cutAt_eq_of_none ?_⟩
  rw [hfree] at h
  dsimp only at h
  rw [cutAt_append hmark] at h
  rcases hcut : cutAt '?' rest with ⟨before, _ | after⟩
  · rfl
  · rw [hcut] at h
    obtain ⟨made, _, hmade⟩ := Option.bind_eq_some_iff.mp h
    rw [← Option.some.inj hmade] at hquery
    cases hquery

/-- Below a URL without a query and without a fragment, all is as it is there
but the path, and the path goes on behind a slash. -/
theorem parse?_below {base : List Char} {root : Url} (hroot : parse? (base ++ ['/']) = some root)
    (hknown : isKnown root.scheme = true) (hfile : isFile root.scheme = false)
    (hquery : root.query = none) (hfragment : root.fragment = none) :
    ∃ front, ∀ cs, Ordinary cs → parse? (base ++ '/' :: cs) =
      some { root with
        path := .segments (addSegments front (cutAtSlashes (isSlash root.scheme) cs)) } := by
  have hnil : Ordinary ['/'] := by decide
  obtain ⟨rest, hscheme⟩ := scheme_of_parse? (by simp) hnil hroot
  have hbehind := hroot
  rw [parse?_append (by simp) hnil, hscheme] at hbehind
  obtain ⟨hsharp, hmark⟩ :=
    bare_of_behindScheme? (by decide) (by decide) hbehind hquery hfragment
  have hplace : ∀ cs, Ordinary cs → parse? (base ++ '/' :: cs) =
      (place? root.scheme (rest ++ '/' :: cs) false).map fun url =>
        { url with query := none, fragment := none } := fun cs hcs =>
    parse?_append_of_bare (by simp) (hcs.cons (by decide)) hscheme hsharp hmark
  have hroot' := hroot
  rw [hplace [] (by decide)] at hroot'
  -- A base of slashes alone would have no host, and no root.
  have hfront : rest.dropWhile (isSlash root.scheme) ≠ [] := by
    intro hnil
    have hall : (rest ++ ['/']).dropWhile (isSlash root.scheme) = [] := by
      rw [List.dropWhile_append, hnil]
      rfl
    rw [place?_of_slashes hknown hfile hall] at hroot'
    cases hroot'
  rw [place?_append hknown hfile hfront, Option.map_map] at hroot'
  obtain ⟨a, ha, hmade⟩ := Option.map_eq_some_iff.mp hroot'
  obtain ⟨front, hhierarchy⟩ := exists_hierarchy root.scheme
    (a.rest ++ (rest.dropWhile (isSlash root.scheme)).dropWhile fun c => !isSlash root.scheme c)
  refine ⟨front, fun cs hcs => ?_⟩
  rw [hplace cs hcs, place?_append hknown hfile hfront, ha, Option.map_some, Option.map_some,
    ← List.append_assoc, hhierarchy cs]
  exact congrArg (fun url : Url => some { url with
    path := .segments (addSegments front (cutAtSlashes (isSlash root.scheme) cs)) }) hmade

end Url

namespace Endpoint

/-! ## Destinations -/

/-- The base is the URL of an HTTP server, without a query and without a
fragment; `root` is the URL of the base with a slash behind it. -/
structure HasRoot (e : Endpoint) (root : Url) : Prop where
  parsed : Url.parse? (e.base ++ ['/']) = some root
  http : root.scheme = "http".toList ∨ root.scheme = "https".toList
  query : root.query = none
  fragment : root.fragment = none

/-- The volume's own segments: the collection, the encoded name and the
kind. -/
def ownSegments (kind : UpdateKind) (volumeId : String) : List (List Char) :=
  [collection, Text.Percent.encode Text.Percent.isUnreserved volumeId.toList, kind.word.toList]

/-- Where an update goes below the root. A name of one dot is passed over, and
a name of two dots takes the collection away. -/
def destination (kind : UpdateKind) (volumeId : String) : List (List Char) :=
  if volumeId = ".." then [kind.word.toList]
  else if volumeId = "." then [collection, kind.word.toList]
  else ownSegments kind volumeId

theorem destination_eq_ownSegments_iff (kind : UpdateKind) (volumeId : String) :
    destination kind volumeId = ownSegments kind volumeId ↔ volumeId ≠ "." ∧ volumeId ≠ ".." := by
  unfold destination
  by_cases htwo : volumeId = ".."
  · simp [htwo, ownSegments]
  by_cases hone : volumeId = "."
  · simp [hone, ownSegments]
  · simp [htwo, hone]

theorem splitOnP_below_collection (scheme : List Char) (kind : UpdateKind) (volumeId : String) :
    (collection ++ '/' :: volumePart kind volumeId).splitOnP (Url.isSlash scheme) =
      ownSegments kind volumeId := by
  have hslash : Url.isSlash scheme '/' = true := rfl
  have hkind : Url.SlashFree kind.word.toList := by
    cases kind with
    | metadata => decide
    | tags => decide
  rw [volumePart, List.splitOnP_append_cons _ _ hslash, List.splitOnP_append_cons _ _ hslash,
    Url.splitOnP_of_slashFree (by decide), Url.splitOnP_of_slashFree (Url.slashFree_encode _),
    Url.splitOnP_of_slashFree hkind]
  rfl

/-- Behind any segments the update's own ones lead to its destination. -/
theorem addSegments_ownSegments (front : List (List Char)) (kind : UpdateKind) (volumeId : String) :
    Url.addSegments front (ownSegments kind volumeId) = front ++ destination kind volumeId := by
  have hkind : ∀ before,
      Url.addSegments before [kind.word.toList] = before ++ [kind.word.toList] := by
    intro before
    cases kind with
    | metadata => rfl
    | tags => rfl
  have hcollection : ∀ after, Url.addSegments front (collection :: after) =
      Url.addSegments (front ++ [collection]) after := fun after =>
    Url.addSegments_cons (by decide) front after
  unfold ownSegments destination
  rw [hcollection]
  by_cases htwo : volumeId = ".."
  · subst htwo
    -- The collection's name is no drive, so that dots lead out of it.
    have hdrop : Url.dropSegment (front ++ [collection]) = front := by
      unfold Url.dropSegment
      rw [List.getLast?_concat, List.dropLast_concat]
      rfl
    have hup : Url.addSegment (front ++ [collection])
        (Text.Percent.encode Text.Percent.isUnreserved "..".toList) false = front := by
      change Url.dropSegment (front ++ [collection]) ++ [] = front
      rw [hdrop, List.append_nil]
    rw [if_pos rfl, Url.addSegments, hup, hkind]
    exact List.cons_ne_nil _ _
  rw [if_neg htwo]
  by_cases hone : volumeId = "."
  · subst hone
    have hstay : Url.addSegment (front ++ [collection])
        (Text.Percent.encode Text.Percent.isUnreserved ".".toList) false = front ++ [collection] :=
      List.append_nil _
    rw [if_pos rfl, Url.addSegments, hstay, hkind, List.append_assoc]
    · rfl
    · exact List.cons_ne_nil _ _
  rw [if_neg hone]
  have hplain : Url.IsPlain (Text.Percent.encode Text.Percent.isUnreserved volumeId.toList) := by
    refine Url.isPlain_encode ?_ ?_
    · exact fun h => hone (String.toList_inj.mp h)
    · exact fun h => htwo (String.toList_inj.mp h)
  rw [Url.addSegments_cons hplain, hkind, Url.encode_keepInPath_encode, List.append_assoc,
    List.append_assoc]
  rfl

/-- What a server gets of an update has the path that its URL is read with. -/
theorem path_of_request {e : Endpoint} {kind : UpdateKind} {d : Descriptor} {sent : HttpRequest}
    (h : e.request kind d = .ok sent) {url : Url}
    (hurl : Url.parse? (e.volumeUrl kind d.volumeId) = some url) : sent.url.path = url.path := by
  obtain ⟨url', hurl', _, _, _, rfl⟩ := request_eq_ok_iff.mp h
  obtain rfl := Option.some.inj (hurl.symm.trans hurl')
  unfold sentTo Url.withoutUser
  split
  · rfl
  · rfl

/-! ## The law -/

/-- Below a base with a path, an update of any volume is requested behind that
path, in the volume's own three segments, unless the volume's name is one dot
or two: then the request goes to the collection, or to the base itself. -/
theorem an_update_goes_astray_only_by_dots {e : Endpoint} {root : Url} (h : e.HasRoot root) :
    ∃ front, root.path = .segments (front ++ [[]]) ∧ ∀ (kind : UpdateKind) (volumeId : String),
      Url.parse? (e.volumeUrl kind volumeId) =
        some { root with path := .segments (front ++ destination kind volumeId) } ∧
      (destination kind volumeId = ownSegments kind volumeId ↔ volumeId ≠ "." ∧ volumeId ≠ "..") ∧
      ∀ (d : Descriptor) (sent : HttpRequest), d.volumeId = volumeId →
        e.request kind d = .ok sent →
          sent.url.path = .segments (front ++ destination kind volumeId) := by
  have hrules : Url.isKnown root.scheme = true ∧ Url.isFile root.scheme = false := by
    rcases h.http with hscheme | hscheme
    · rw [hscheme]
      decide
    · rw [hscheme]
      decide
  obtain ⟨front, hbelow⟩ := Url.parse?_below h.parsed hrules.1 hrules.2 h.query h.fragment
  refine ⟨front, ?_, ?_⟩
  · have hself := hbelow [] (by decide)
    rw [h.parsed] at hself
    exact congrArg Url.path (Option.some.inj hself)
  intro kind volumeId
  have hurl : Url.parse? (e.volumeUrl kind volumeId) =
      some { root with path := .segments (front ++ destination kind volumeId) } := by
    have hordinary := (by decide : Url.Ordinary collection).append
      ((ordinary_volumePart kind volumeId).cons (by decide : Url.IsOrdinary '/'))
    rw [← addSegments_ownSegments, ← splitOnP_below_collection root.scheme]
    exact hbelow _ hordinary
  refine ⟨hurl, destination_eq_ownSegments_iff kind volumeId, ?_⟩
  rintro d sent rfl hsent
  exact path_of_request hsent hurl

/-- A name with slashes and dots in it stays in its segment. -/
theorem an_update_of_a_name_with_slashes :
    let e := below "http://api.test/a/../v1//" none "p"
    (∃ root, e.HasRoot root) ∧
      ∃ url, Url.parse? (e.volumeUrl .tags "../x") = some url ∧
        url.path =
          .segments ("v1".toList :: ["volumes".toList, "..%2Fx".toList, "tags".toList]) := by
  intro e
  let root : Url := ⟨"http".toList, [], [], some (.name "api.test".toList), none,
    .segments ["v1".toList, []], none, none⟩
  have hroot : e.HasRoot root := ⟨by decide +kernel, .inl rfl, rfl, rfl⟩
  obtain ⟨front, hpath, hlaw⟩ := an_update_goes_astray_only_by_dots hroot
  have hfront : front = ["v1".toList] := by
    have hsegments := Url.Path.segments.inj hpath
    exact (List.append_inj_left' hsegments rfl).symm
  obtain ⟨hurl, hown, _⟩ := hlaw .tags "../x"
  refine ⟨⟨root, hroot⟩, _, hurl, ?_⟩
  rw [hfront, hown.mpr ⟨by decide, by decide⟩]
  decide

/-- A volume with two dots for a name: its metadata go to the base itself,
where they have nothing to do with volumes. -/
theorem a_volume_named_by_two_dots :
    let e := below "http://api.test/v1" none "p"
    let pv : PersistentVolume :=
      ⟨some "pv-1", none, none, none, some "Bound", none, none, none, none,
        some ⟨"block.csi", "..", .empty⟩⟩
    let d := (⟨"block.csi", "p", .single "block.csi" "t"⟩ : Site).describe pv.snapshot
    (∃ root, e.HasRoot root ∧ root.path = .segments ["v1".toList, []]) ∧
      ∃ sent, e.request .metadata d = .ok sent ∧
        sent.url.path = .segments ["v1".toList, "metadata".toList] ∧
        sent.url.path ≠ .segments ("v1".toList :: ownSegments .metadata d.volumeId) := by
  intro e pv d
  let url (segments : List (List Char)) : Url := ⟨"http".toList, [], [],
    some (.name "api.test".toList), none, .segments segments, none, none⟩
  have hroot : e.HasRoot (url ["v1".toList, []]) := ⟨by decide +kernel, .inl rfl, rfl, rfl⟩
  have hurl : Url.parse? (e.volumeUrl .metadata d.volumeId) =
      some (url ["v1".toList, "metadata".toList]) := by decide +kernel
  refine ⟨⟨_, hroot, rfl⟩, sentTo (url ["v1".toList, "metadata".toList]) e .metadata d, ?_, ?_, ?_⟩
  · exact request_eq_ok_iff.mpr ⟨_, hurl, by decide, rfl, by decide +kernel, rfl⟩
  · decide
  · decide

end Endpoint

end VolumeSync
