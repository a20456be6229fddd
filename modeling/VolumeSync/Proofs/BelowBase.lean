import Mathlib.Data.List.TakeWhile
import VolumeSync.Endpoint

-- URLs below a base. However a base is written, the URLs that are built on
-- it lead to the same place: what is put behind it may become part of the
-- path, of the query or of the fragment, but never of the scheme, the user,
-- the host or the port number.

namespace VolumeSync

namespace Url

/-! ## What is put behind a base -/

/-- The character stands for itself wherever it is put behind a base, and
begins no other part of a URL. -/
def IsOrdinary (c : Char) : Prop := isPrinting c = true ∧ c ≠ ':' ∧ c ≠ '#' ∧ c ≠ '?'

instance (c : Char) : Decidable (IsOrdinary c) := inferInstanceAs (Decidable (_ ∧ _))

/-- All characters are ordinary. -/
def Ordinary (cs : List Char) : Prop := ∀ c ∈ cs, IsOrdinary c

instance (cs : List Char) : Decidable (Ordinary cs) := List.decidableBAll IsOrdinary cs

theorem Ordinary.append {xs ys : List Char} (hx : Ordinary xs) (hy : Ordinary ys) :
    Ordinary (xs ++ ys) := by
  intro c hc
  rcases List.mem_append.mp hc with hc | hc
  · exact hx c hc
  · exact hy c hc

theorem Ordinary.cons {c : Char} {cs : List Char} (hc : IsOrdinary c) (h : Ordinary cs) :
    Ordinary (c :: cs) := by
  intro x hx
  rcases List.mem_cons.mp hx with rfl | hx
  · exact hc
  · exact h x hx

theorem isPrinting_of_range {low high : UInt32} (hlow : 0x20 < low.toNat)
    (hhigh : high.toNat < 0x7F) {c : Char} (h : low ≤ c.val ∧ c.val ≤ high) :
    isPrinting c = true := by
  have hfrom : low.toNat ≤ c.toNat := UInt32.le_iff_toNat_le.mp h.1
  have hto : c.toNat ≤ high.toNat := UInt32.le_iff_toNat_le.mp h.2
  simp only [isPrinting, Bool.and_eq_true, decide_eq_true_eq]
  omega

theorem isPrinting_of_isUnreserved {c : Char} (h : Text.Percent.isUnreserved c = true) :
    isPrinting c = true := by
  change ((((((c.isUpper || c.isLower) || c.isDigit) || c == '-') || c == '_') || c == '.')
    || c == '~') = true at h
  simp only [Bool.or_eq_true, beq_iff_eq] at h
  rcases h with (((((hupper | hlower) | hdigit) | rfl) | rfl) | rfl) | rfl
  · exact isPrinting_of_range (by decide) (by decide) (of_decide_eq_true hupper)
  · obtain ⟨hfrom, hto⟩ := Bool.and_eq_true_iff.mp hlower
    exact isPrinting_of_range (by decide) (by decide)
      ⟨of_decide_eq_true hfrom, of_decide_eq_true hto⟩
  · obtain ⟨hfrom, hto⟩ := Bool.and_eq_true_iff.mp hdigit
    exact isPrinting_of_range (by decide) (by decide)
      ⟨of_decide_eq_true hfrom, of_decide_eq_true hto⟩
  · decide
  · decide
  · decide
  · decide

theorem isOrdinary_of_isUnreserved {c : Char} (h : Text.Percent.isUnreserved c = true) :
    IsOrdinary c := by
  refine ⟨isPrinting_of_isUnreserved h, ?_, ?_, ?_⟩
  · rintro rfl
    cases h
  · rintro rfl
    cases h
  · rintro rfl
    cases h

/-- What holds of the characters that are left as they are, of the percent sign
and of the digits holds of all characters of an encoded text. -/
theorem forall_mem_encode {P : Char → Prop}
    (hkeep : ∀ c, Text.Percent.isUnreserved c = true → P c) (hpercent : P '%')
    (hdigit : ∀ n ∈ List.range 16, P (Text.upperHexDigit n)) (cs : List Char) :
    ∀ c ∈ Text.Percent.encode Text.Percent.isUnreserved cs, P c := by
  intro c hc
  obtain ⟨x, _, hx⟩ := List.mem_flatMap.mp hc
  unfold Text.Percent.char at hx
  split at hx
  · rename_i hx'
    obtain rfl := List.mem_singleton.mp hx
    exact hkeep c hx'
  · obtain ⟨b, _, hb⟩ := List.mem_flatMap.mp hx
    have hlt := b.toNat_lt
    simp only [Text.Percent.byte, List.mem_cons, List.not_mem_nil, or_false] at hb
    rcases hb with rfl | rfl | rfl
    · exact hpercent
    · exact hdigit _ (List.mem_range.mpr (by omega))
    · exact hdigit _ (List.mem_range.mpr (by omega))

/-- What is left of any text when it is encoded is ordinary. -/
theorem ordinary_encode (cs : List Char) :
    Ordinary (Text.Percent.encode Text.Percent.isUnreserved cs) :=
  forall_mem_encode (fun _ => isOrdinary_of_isUnreserved) (by decide) (by decide) cs

/-! ## Cutting -/

section Stops

variable {α : Type} {p : α → Bool} {stop : α} (h : p stop = false) (xs rest : List α)

include h

theorem dropWhile_append_stop :
    (xs ++ stop :: rest).dropWhile p = xs.dropWhile p ++ stop :: rest := by
  rw [List.dropWhile_append, List.dropWhile_cons_of_neg (by simp [h])]
  split
  · rename_i hempty
    rw [List.isEmpty_iff.mp hempty, List.nil_append]
  · rfl

theorem takeWhile_append_stop : (xs ++ stop :: rest).takeWhile p = xs.takeWhile p := by
  rw [List.takeWhile_append]
  split
  · rename_i hall
    rw [List.takeWhile_cons_of_neg (by simp [h]), List.append_nil]
    exact ((List.takeWhile_prefix _).eq_of_length hall).symm
  · rfl

end Stops

theorem cutAt_append {mark : Char} {tail : List Char} (h : mark ∉ tail) (cs : List Char) :
    cutAt mark (cs ++ tail) =
      match cutAt mark cs with
      | (before, some after) => (before, some (after ++ tail))
      | (before, none) => (before ++ tail, none) := by
  have htail : tail.dropWhile (· != mark) = [] := by
    refine List.dropWhile_eq_nil_iff.mpr fun c hc => ?_
    simpa using fun heq : c = mark => h (heq ▸ hc)
  unfold cutAt
  rw [List.dropWhile_append]
  rcases hd : cs.dropWhile (· != mark) with _ | ⟨x, after⟩
  · simp [htail]
  · have hshort : (cs.takeWhile (· != mark)).length ≠ cs.length := by
      have hlen := congrArg List.length
        (List.takeWhile_append_dropWhile (p := (· != mark)) (l := cs))
      rw [hd, List.length_append, List.length_cons] at hlen
      omega
    simp [List.takeWhile_append, hshort]

/-- What is read of the text in front when more comes behind it: controls and
spaces fall away at its start only. -/
def lead (cs : List Char) : List Char :=
  (cs.dropWhile isControlOrSpace).filter fun c => !(c == '\t' || c == '\n' || c == '\r')

theorem strip_append {tail : List Char} (hne : tail ≠ []) (h : ∀ c ∈ tail, isPrinting c = true)
    (cs : List Char) : strip (cs ++ tail) = lead cs ++ tail := by
  have hprinting : ∀ c ∈ tail, isControlOrSpace c = false := by
    intro c hc
    have := h c hc
    simp only [isPrinting, Bool.and_eq_true, decide_eq_true_eq] at this
    simp only [isControlOrSpace, decide_eq_false_iff_not]
    omega
  have hfront : (cs ++ tail).dropWhile isControlOrSpace =
      cs.dropWhile isControlOrSpace ++ tail := by
    rcases tail with _ | ⟨c, tail⟩
    · exact absurd rfl hne
    · exact dropWhile_append_stop (hprinting c List.mem_cons_self) cs tail
  have hback : ∀ xs : List Char,
      ((xs ++ tail).reverse.dropWhile isControlOrSpace).reverse = xs ++ tail := by
    intro xs
    rw [List.reverse_append]
    rcases hlast : tail.reverse with _ | ⟨c, before⟩
    · exact absurd (List.reverse_eq_nil_iff.mp hlast) hne
    · have hc : c ∈ tail := by
        rw [← List.mem_reverse, hlast]
        exact List.mem_cons_self
      rw [List.cons_append, List.dropWhile_cons_of_neg (by simp [hprinting c hc]),
        ← List.cons_append, ← hlast, ← List.reverse_append, List.reverse_reverse]
  have hkeep : tail.filter (fun c => !(c == '\t' || c == '\n' || c == '\r')) = tail := by
    refine List.filter_eq_self.mpr fun c hc => ?_
    have hno := hprinting c hc
    by_contra hc'
    simp only [Bool.not_eq_true', Bool.or_eq_false_iff, not_and_or, Bool.not_eq_false,
      beq_iff_eq] at hc'
    rcases hc' with (rfl | rfl) | rfl <;> cases hno
  rw [strip, hfront, hback, List.filter_append, hkeep]
  rfl

theorem scheme?_append {tail : List Char} (h : ':' ∉ tail) (cs : List Char) :
    scheme? (cs ++ tail) = (scheme? cs).map fun x => (x.1, x.2 ++ tail) := by
  unfold scheme?
  rw [cutAt_append h]
  rcases cutAt ':' cs with ⟨scheme, _ | rest⟩
  · rfl
  · rcases scheme with _ | ⟨c, cs⟩
    · rfl
    · change (guard _ : Option Unit).bind _ = Option.map _ ((guard _ : Option Unit).bind _)
      rw [Option.map_bind]
      rfl

/-! ## The place -/

theorem isKnown_slash {scheme : List Char} (h : isKnown scheme = true) (c : Char) :
    isSlash scheme c = (c == '/' || c == '\\') := by
  rw [isSlash, h, Bool.and_true]

/-- Where the scheme has rules of its own, what comes behind a slash that ends
the authority is part of the path. -/
theorem place?_append {scheme front : List Char} (hknown : isKnown scheme = true)
    (hfile : isFile scheme = false) (hfront : front.dropWhile (isSlash scheme) ≠ [])
    (s : List Char) (more : Bool) :
    place? scheme (front ++ '/' :: s) more =
      (authority? scheme
        ((front.dropWhile (isSlash scheme)).takeWhile fun c => !isSlash scheme c) true).map
        fun a => ⟨scheme, a.username, a.password, some a.host, a.portNumber,
          hierarchy scheme (a.rest ++
            ((front.dropWhile (isSlash scheme)).dropWhile (fun c => !isSlash scheme c)
              ++ '/' :: s)), none, none⟩ := by
  have hdrop : (front ++ '/' :: s).dropWhile (isSlash scheme) =
      front.dropWhile (isSlash scheme) ++ '/' :: s := by
    rw [List.dropWhile_append, if_neg (by simpa using hfront)]
  unfold place?
  dsimp only
  rw [hfile, hknown, hdrop]
  generalize front.dropWhile (isSlash scheme) = r
  -- The slash ends the authority, if no slash before it has.
  have hstop : (fun c => !isSlash scheme c) '/' = false := rfl
  have htake := takeWhile_append_stop (p := fun c => !isSlash scheme c) hstop r s
  have hrest := dropWhile_append_stop (p := fun c => !isSlash scheme c) hstop r s
  have hmore :
      (more || !(r.dropWhile (fun c => !isSlash scheme c) ++ '/' :: s).isEmpty) = true := by
    simp
  rw [htake, hrest, hmore]
  simp only [Bool.false_eq_true, ↓reduceIte]
  rcases authority? scheme (r.takeWhile fun c => !isSlash scheme c) true with _ | a
  · rfl
  · rfl

theorem scheme_of_bind {α : Type} {first : Option α} {next : α → Option Url} {scheme : List Char}
    (hnext : ∀ x made, next x = some made → made.scheme = scheme) {url : Url}
    (h : first.bind next = some url) : url.scheme = scheme := by
  obtain ⟨x, _, hx⟩ := Option.bind_eq_some_iff.mp h
  exact hnext x url hx

/-- Reading keeps the scheme, whatever rules it has. -/
theorem scheme_of_place? {scheme cs : List Char} {more : Bool} {url : Url}
    (h : place? scheme cs more = some url) : url.scheme = scheme := by
  unfold place? at h
  dsimp only at h
  split at h
  · exact scheme_of_bind (fun x made hmade => by cases hmade; rfl) h
  split at h
  · exact scheme_of_bind (fun x made hmade => by cases hmade; rfl) h
  split at h
  · exact scheme_of_bind (fun x made hmade => by cases hmade; rfl) h
  · cases h
    rfl
  · cases h
    rfl

/-! ## Behind the scheme -/

/-- The URL without its path and what follows the path. -/
def top (u : Url) : Url := { u with path := .segments [], query := none, fragment := none }

/-- Reads what stands behind the scheme. -/
def behindScheme? (scheme rest : List Char) : Option Url := do
  let (beforeFragment, fragment) := cutAt '#' rest
  let (beforeQuery, query) := cutAt '?' beforeFragment
  let url ← place? scheme beforeQuery (query.isSome || fragment.isSome)
  return { url with
    query := query.map (Text.Percent.encode (keepInQuery scheme))
    fragment := fragment.map (Text.Percent.encode keepInFragment) }

theorem scheme_of_behindScheme? {scheme rest : List Char} {url : Url}
    (h : behindScheme? scheme rest = some url) : url.scheme = scheme := by
  obtain ⟨made, hplace, hmade⟩ := Option.bind_eq_some_iff.mp h
  have hsame := scheme_of_place? hplace
  cases hmade
  exact hsame

theorem parse?_eq_bind (input : List Char) :
    parse? input = (scheme? (strip input)).bind fun x => behindScheme? x.1 x.2 := rfl

section Below

variable {base tail : List Char} (hne : tail ≠ []) (htail : Ordinary tail)

include hne htail

/-- The scheme is the base's, and what comes behind the base comes behind it. -/
theorem parse?_append :
    parse? (base ++ tail) =
      (scheme? (lead base)).bind fun x => behindScheme? x.1 (x.2 ++ tail) := by
  rw [parse?_eq_bind, strip_append hne fun c hc => (htail c hc).1,
    scheme?_append fun hc => (htail _ hc).2.1 rfl, Option.bind_map]
  rfl

theorem scheme_of_parse? {url : Url} (h : parse? (base ++ tail) = some url) :
    ∃ rest, scheme? (lead base) = some (url.scheme, rest) := by
  rw [parse?_append hne htail] at h
  obtain ⟨⟨scheme, rest⟩, hscheme, hbehind⟩ := Option.bind_eq_some_iff.mp h
  rw [scheme_of_behindScheme? hbehind]
  exact ⟨rest, hscheme⟩

/-- What comes before the path is read off the base, and off what follows the
base only where the base does not reach the path's end. -/
theorem top_parse?_append {scheme rest : List Char}
    (hscheme : scheme? (lead base) = some (scheme, rest)) :
    (parse? (base ++ tail)).map top =
      match cutAt '#' rest with
      | (before, some _) =>
        (place? scheme (cutAt '?' before).1 true).map top
      | (before, none) =>
        match cutAt '?' before with
        | (before, some _) => (place? scheme before true).map top
        | (before, none) => (place? scheme (before ++ tail) false).map top := by
  have htop : ∀ (made : Option Url) (query fragment : Option (List Char)),
      (made.bind fun url => some { url with query, fragment }).map top = made.map top := by
    intro made query fragment
    rcases made with _ | url
    · rfl
    · rfl
  rw [parse?_append hne htail, hscheme, Option.bind_some, behindScheme?,
    cutAt_append fun hc => (htail _ hc).2.2.1 rfl]
  rcases cutAt '#' rest with ⟨before, _ | after⟩
  · dsimp only
    rw [cutAt_append fun hc => (htail _ hc).2.2.2 rfl]
    rcases cutAt '?' before with ⟨before, _ | after⟩
    · exact htop _ _ _
    · exact htop _ _ _
  · dsimp only [Option.isSome_some]
    rw [Bool.or_true]
    exact htop _ _ _

/-- Behind a base without a query and without a fragment the rest is path to
its end. -/
theorem parse?_append_of_bare {scheme rest : List Char}
    (hscheme : scheme? (lead base) = some (scheme, rest))
    (hfragment : cutAt '#' rest = (rest, none)) (hquery : cutAt '?' rest = (rest, none)) :
    parse? (base ++ tail) = (place? scheme (rest ++ tail) false).map fun url =>
      { url with query := none, fragment := none } := by
  rw [parse?_append hne htail, hscheme, Option.bind_some, behindScheme?,
    cutAt_append fun hc => (htail _ hc).2.2.1 rfl, hfragment]
  dsimp only
  rw [cutAt_append fun hc => (htail _ hc).2.2.2 rfl, hquery]
  exact (Option.map_eq_bind ..).symm

end Below

/-- Whatever ordinary text comes behind a base, it changes nothing before the
path. -/
theorem top_parse?_eq {base front : List Char} (hfront : Ordinary front)
    (hname : ∃ c ∈ front, c ≠ '/' ∧ c ≠ '\\') {scheme rest : List Char}
    (hscheme : scheme? (lead base) = some (scheme, rest)) (hknown : isKnown scheme = true)
    (hfile : isFile scheme = false) {s s' : List Char} (hs : Ordinary s) (hs' : Ordinary s') :
    (parse? (base ++ (front ++ '/' :: s))).map top =
      (parse? (base ++ (front ++ '/' :: s'))).map top := by
  have hslash : IsOrdinary '/' := by decide
  have hkeep : ∀ cs, (cs ++ front).dropWhile (isSlash scheme) ≠ [] := by
    obtain ⟨c, hc, hno, hno'⟩ := hname
    intro cs hnil
    have hall := List.dropWhile_eq_nil_iff.mp hnil c (List.mem_append_right _ hc)
    rw [isKnown_slash hknown] at hall
    simp [hno, hno'] at hall
  rw [top_parse?_append (by simp) (hfront.append (hs.cons hslash)) hscheme,
    top_parse?_append (by simp) (hfront.append (hs'.cons hslash)) hscheme]
  rcases cutAt '#' rest with ⟨before, _ | _⟩
  · dsimp only
    rcases cutAt '?' before with ⟨before, _ | _⟩
    · dsimp only
      rw [← List.append_assoc, ← List.append_assoc, place?_append hknown hfile (hkeep _),
        place?_append hknown hfile (hkeep _), Option.map_map, Option.map_map]
      rfl
    · rfl
  · rfl

/-! ## Plain names in a path -/

theorem encode_of_forall {keep : Char → Bool} {cs : List Char} (h : ∀ c ∈ cs, keep c = true) :
    Text.Percent.encode keep cs = cs := by
  induction cs with
  | nil => rfl
  | cons c cs ih =>
    obtain ⟨hc, hcs⟩ := List.forall_mem_cons.mp h
    rw [Text.Percent.encode, List.flatMap_cons, Text.Percent.char, if_pos hc]
    exact congrArg (c :: ·) (ih hcs)

/-- The segment is no dots, however they are written. -/
def IsPlain (segment : List Char) : Prop :=
  isDoubleDot segment = false ∧ isSingleDot segment = false

instance (segment : List Char) : Decidable (IsPlain segment) := inferInstanceAs (Decidable (_ ∧ _))

theorem isPlain_of_length {segment : List Char} (h : 6 < segment.length) : IsPlain segment := by
  have hlong : ∀ dots : String, dots.toList.length ≤ 6 →
      (String.ofList (segment.map Char.toLower) == dots) = false := by
    intro dots hshort
    refine beq_eq_false_iff_ne.mpr ?_
    rintro rfl
    rw [String.toList_ofList, List.length_map] at hshort
    omega
  constructor
  · simp only [isDoubleDot, List.contains_cons, List.contains_nil, Bool.or_false,
      hlong ".." (by decide), hlong ".%2e" (by decide), hlong "%2e." (by decide),
      hlong "%2e%2e" (by decide)]
  · simp only [isSingleDot, List.contains_cons, List.contains_nil, Bool.or_false,
      hlong "." (by decide), hlong "%2e" (by decide)]

theorem addSegments_cons {segment : List Char} (h : IsPlain segment)
    (before after : List (List Char)) :
    addSegments before (segment :: after) =
      addSegments (before ++ [Text.Percent.encode keepInPath segment]) after := by
  obtain ⟨hdouble, hsingle⟩ := h
  have hadd : ∀ last, addSegment before segment last =
      before ++ [Text.Percent.encode keepInPath segment] := by
    intro last
    simp [addSegment, hdouble, hsingle]
  rcases after with _ | ⟨next, after⟩
  · exact hadd true
  · rw [addSegments, hadd]
    exact List.cons_ne_nil _ _

/-- A URL in writing takes at least a byte for every character. -/
theorem length_le_utf8ByteSize (cs : List Char) : cs.length ≤ (String.ofList cs).utf8ByteSize := by
  induction cs with
  | nil => exact Nat.zero_le _
  | cons c cs ih =>
    have hpos := c.utf8Size_pos
    rw [String.ofList_cons, String.utf8ByteSize_append, String.utf8ByteSize_singleton,
      List.length_cons]
    omega

end Url

end VolumeSync
