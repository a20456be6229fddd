import Mathlib.Algebra.Ring.Int.Defs
import Mathlib.Data.List.Basic
import Mathlib.Data.List.TakeWhile
import VolumeSync.Proofs.FiniteMaps
import VolumeSync.Proofs.TextRuns
import VolumeSync.Quantity

-- Written quantities: what a text has to look like to be one, said without
-- the reader. The reader takes a text apart in one way only, so it accepts
-- exactly these texts and finds the parts that they were put together from.

namespace VolumeSync

namespace Text

/-! ## Signs -/

/-- The sign before a number. It may be left out. -/
inductive Sign where
  | unsaid
  | plus
  | minus
  deriving DecidableEq, Repr

namespace Sign

/-- The sign in writing. -/
def chars : Sign → List Char
  | unsaid => []
  | plus => ['+']
  | minus => ['-']

def isMinus : Sign → Bool
  | minus => true
  | _ => false

/-- The number with the sign before it. -/
def apply (sign : Sign) (n : Nat) : Int := if sign.isMinus then -(n : Int) else n

/-- The sign that a text begins with, and the text behind it. -/
def cut : List Char → Sign × List Char
  | '-' :: rest => (minus, rest)
  | '+' :: rest => (plus, rest)
  | cs => (unsaid, cs)

/-- The text does not begin with a sign. -/
def Absent (cs : List Char) : Prop := ∀ c ∈ cs.head?, c ≠ '-' ∧ c ≠ '+'

theorem absent_of_ne {cs : List Char} (hminus : ∀ rest, cs = '-' :: rest → False)
    (hplus : ∀ rest, cs = '+' :: rest → False) : Absent cs := by
  rcases cs with _ | ⟨x, rest⟩
  · intro c hc
    cases hc
  · intro c hc
    obtain rfl := Option.mem_some_iff.mp hc
    exact ⟨fun h => hminus rest (h ▸ rfl), fun h => hplus rest (h ▸ rfl)⟩

theorem cut_of_absent {cs : List Char} (h : Absent cs) : cut cs = (unsaid, cs) := by
  unfold cut
  split
  · exact absurd rfl (h '-' rfl).1
  · exact absurd rfl (h '+' rfl).2
  · rfl

theorem cut_append {cs : List Char} (h : Absent cs) (sign : Sign) :
    cut (sign.chars ++ cs) = (sign, cs) := by
  cases sign with
  | unsaid => exact cut_of_absent h
  | plus => rfl
  | minus => rfl

/-- Nothing of the text is lost with its sign. -/
theorem chars_append_cut (cs : List Char) : (cut cs).1.chars ++ (cut cs).2 = cs := by
  unfold cut
  split
  · rfl
  · rfl
  · rfl

end Sign

/-! ## Whole numbers -/

theorem IsDigits.absent {cs : List Char} (h : IsDigits cs) : Sign.Absent cs := by
  intro c hc
  have hdigit := h c (List.mem_of_mem_head? hc)
  exact ⟨ne_of_isDigit hdigit rfl, ne_of_isDigit hdigit rfl⟩

/-- The text is a whole number in decimal notation, with or without a
sign. -/
def WritesInt (cs : List Char) (n : Int) : Prop :=
  ∃ (sign : Sign) (digits : List Char), digits ≠ [] ∧ IsDigits digits ∧
    cs = sign.chars ++ digits ∧ n = sign.apply (digitsValue digits)

theorem readInt?_eq (cs : List Char) :
    readInt? cs = (readInt?.magnitude? (Sign.cut cs).2).map (Sign.cut cs).1.apply := by
  unfold readInt?
  split
  · rename_i rest
    rw [Sign.cut]
    cases readInt?.magnitude? rest <;> rfl
  · rename_i rest
    rw [Sign.cut]
    cases readInt?.magnitude? rest <;> rfl
  · rename_i hminus hplus
    rw [Sign.cut_of_absent (Sign.absent_of_ne hminus hplus)]
    cases readInt?.magnitude? cs <;> rfl

theorem readInt?_eq_some_iff {cs : List Char} {n : Int} :
    readInt? cs = some n ↔ WritesInt cs n := by
  rw [readInt?_eq, Option.map_eq_some_iff]
  unfold readInt?.magnitude?
  simp only [Option.ite_none_right_eq_some, List.all_eq_true, Option.some.injEq]
  constructor
  · rintro ⟨_, ⟨⟨hne, hdigits⟩, rfl⟩, rfl⟩
    exact ⟨_, _, hne, hdigits, (Sign.chars_append_cut cs).symm, rfl⟩
  · rintro ⟨sign, digits, hne, hdigits, rfl, rfl⟩
    have hdigits : IsDigits digits := hdigits
    rw [Sign.cut_append hdigits.absent]
    exact ⟨_, ⟨⟨hne, hdigits⟩, rfl⟩, rfl⟩

end Text

/-! ## Suffixes -/

/-- The suffix stands for the scale. Each letter of a row is 1024 times, or
1000 times, or a 1000th of the one before; the letter e comes before a power
of ten that is a 32-bit word. -/
inductive Scale.Writes : List Char → Scale → Prop where
  | plain : Writes [] ⟨0, 0⟩
  | binary {i : Nat} {letter : Char} (h : "KMGTPE".toList[i]? = some letter) :
      Writes [letter, 'i'] ⟨10 * (i + 1), 0⟩
  | decimal {i : Nat} {letter : Char} (h : "kMGTPE".toList[i]? = some letter) :
      Writes [letter] ⟨0, 3 * (i + 1)⟩
  | fraction {i : Nat} {letter : Char} (h : "mun".toList[i]? = some letter) :
      Writes [letter] ⟨0, -3 * (i + 1)⟩
  | power {e : Char} {written : List Char} {n : Int} (he : e = 'e' ∨ e = 'E')
      (hn : Text.WritesInt written n) (hfits : -2 ^ 31 ≤ n ∧ n < 2 ^ 31) :
      Writes (e :: written) ⟨0, n⟩

theorem fitsIn_succ_iff {bits : Nat} {n : Int} :
    FitsIn (bits + 1) n ↔ -2 ^ bits ≤ n ∧ n < 2 ^ bits := by
  have hcount : (wordCount (bits + 1 - 1) : Int) = 2 ^ bits := by
    rw [Nat.add_sub_cancel]
    exact Int.natCast_pow 2 bits
  unfold FitsIn
  rw [hcount]

namespace Scale

/-- The words stand for the scales that they are listed with. -/
theorem writes_of_mem_named {entry : String × Scale} (h : entry ∈ named) :
    Writes entry.1.toList entry.2 := by
  have hbinary : ∀ (i : Nat) letter, "KMGTPE".toList[i]? = some letter →
      Writes [letter, 'i'] ⟨10 * (i + 1), 0⟩ := fun i letter => .binary
  have hdecimal : ∀ (i : Nat) letter, "kMGTPE".toList[i]? = some letter →
      Writes [letter] ⟨0, 3 * (i + 1)⟩ := fun i letter => .decimal
  have hfraction : ∀ (i : Nat) letter, "mun".toList[i]? = some letter →
      Writes [letter] ⟨0, -3 * (i + 1)⟩ := fun i letter => .fraction
  simp only [named, List.mem_cons, List.not_mem_nil, or_false] at h
  rcases h with rfl | rfl | rfl | rfl | rfl | rfl | rfl | rfl | rfl | rfl | rfl | rfl | rfl | rfl |
    rfl | rfl
  · exact .plain
  · exact hbinary 0 'K' rfl
  · exact hbinary 1 'M' rfl
  · exact hbinary 2 'G' rfl
  · exact hbinary 3 'T' rfl
  · exact hbinary 4 'P' rfl
  · exact hbinary 5 'E' rfl
  · exact hfraction 2 'n' rfl
  · exact hfraction 1 'u' rfl
  · exact hfraction 0 'm' rfl
  · exact hdecimal 0 'k' rfl
  · exact hdecimal 1 'M' rfl
  · exact hdecimal 2 'G' rfl
  · exact hdecimal 3 'T' rfl
  · exact hdecimal 4 'P' rfl
  · exact hdecimal 5 'E' rfl

/-- No word ends in a digit. -/
theorem getLast?_of_mem_named : ∀ entry ∈ named,
    entry.1.toList.getLast?.any Char.isDigit = false := by decide

theorem lookup_named_of_digit {cs : List Char} {c : Char} (hc : c ∈ cs.getLast?)
    (hdigit : c.isDigit = true) : named.lookup (String.ofList cs) = none := by
  refine List.lookup_eq_none_iff.mpr fun entry hentry => ?_
  rw [bne_iff_ne]
  intro heq
  have hword : entry.1.toList = cs := by rw [← heq, String.toList_ofList]
  have hno := getLast?_of_mem_named entry hentry
  rw [hword, (Option.any_eq_true _ _).mpr ⟨c, hc, hdigit⟩] at hno
  cases hno

theorem exponent?_eq_some_iff {cs : List Char} {n : Int} :
    exponent? cs = some n ↔ Text.WritesInt cs n ∧ -2 ^ 31 ≤ n ∧ n < 2 ^ 31 := by
  unfold exponent?
  rw [Option.filter_eq_some_iff, Text.readInt?_eq_some_iff, decide_eq_true_iff, fitsIn_succ_iff]

theorem writes_of_lookup {suffix : List Char} {scale : Scale}
    (h : named.lookup (String.ofList suffix) = some scale) : Writes suffix scale := by
  have hwrites := writes_of_mem_named (mem_of_lookup h)
  rwa [String.toList_ofList] at hwrites

/-- A power of ten ends in a digit, so that it is none of the words. -/
theorem ofSuffix?_power {e : Char} {written : List Char} {n : Int} (he : e = 'e' ∨ e = 'E')
    (h : exponent? written = some n) : ofSuffix? (e :: written) = some ⟨0, n⟩ := by
  obtain ⟨sign, digits, hne, hdigits, rfl, _⟩ := (exponent?_eq_some_iff.mp h).1
  have hlast : digits.getLast hne ∈ (e :: (sign.chars ++ digits)).getLast? := by
    rw [← List.cons_append, List.getLast?_append_of_ne_nil _ hne, List.getLast?_eq_some_getLast hne]
    rfl
  have hword := lookup_named_of_digit hlast (hdigits _ (List.getLast_mem hne))
  unfold ofSuffix?
  rw [hword]
  rcases he with rfl | rfl
  · exact congrArg (Option.map (Scale.mk 0)) h
  · exact congrArg (Option.map (Scale.mk 0)) h

/-- The suffixes that are read are those that stand for a scale. -/
theorem ofSuffix?_eq_some_iff {suffix : List Char} {scale : Scale} :
    ofSuffix? suffix = some scale ↔ Writes suffix scale := by
  constructor
  · intro h
    -- The letter e is looked at only where the suffix is none of the words.
    have hpower : ∀ {e : Char} {written : List Char}, e = 'e' ∨ e = 'E' →
        (exponent? written).map (⟨0, ·⟩) = some scale → Writes (e :: written) scale := by
      intro e written he hmap
      obtain ⟨n, hn, rfl⟩ := Option.map_eq_some_iff.mp hmap
      obtain ⟨hwritten, hfits⟩ := exponent?_eq_some_iff.mp hn
      exact .power he hwritten hfits
    rcases hword : named.lookup (String.ofList suffix) with _ | found
    · unfold ofSuffix? at h
      rw [hword] at h
      split at h
      · rename_i hfound
        cases hfound
      · exact hpower (.inl rfl) h
      · exact hpower (.inr rfl) h
      · cases h
    · unfold ofSuffix? at h
      rw [hword] at h
      obtain rfl := Option.some.inj h
      exact writes_of_lookup hword
  · intro h
    cases h with
    | plain => rfl
    | @binary i letter h =>
      rcases i with _ | _ | _ | _ | _ | _ | i <;> cases h <;> rfl
    | @decimal i letter h =>
      rcases i with _ | _ | _ | _ | _ | _ | i <;> cases h <;> rfl
    | @fraction i letter h =>
      rcases i with _ | _ | _ | i <;> cases h <;> rfl
    | power he hn hfits => exact ofSuffix?_power he (exponent?_eq_some_iff.mpr ⟨hn, hfits⟩)

end Scale

/-! ## Quantities -/

/-- A quantity in writing: a sign, digits with a dot before, among or behind
them, or none, and a suffix that stands for a scale. -/
structure Quantity where
  sign : Text.Sign
  whole : List Char
  fraction : Option (List Char)
  suffix : List Char
  scale : Scale
  isDigits : Text.IsDigits (whole ++ fraction.getD [])
  ne_nil : whole ++ fraction.getD [] ≠ []
  scaled : Scale.Writes suffix scale

namespace Quantity

variable (q : Quantity)

/-- The digits behind the dot. -/
def decimals : List Char := q.fraction.getD []

/-- The dot and the digits behind it. -/
def point : List Char := q.fraction.elim [] ('.' :: ·)

/-- The quantity in characters. -/
def chars : List Char := q.sign.chars ++ (q.whole ++ (q.point ++ q.suffix))

/-- The text is the quantity, with blanks around it or not. -/
def StandsIn (raw : String) : Prop :=
  ∃ before after, Text.AllBlank before ∧ Text.AllBlank after ∧
    raw.toList = before ++ (q.chars ++ after)

/-- The quantity as the reader takes it apart. -/
def numeral : Numeral := ⟨q.sign.isMinus, q.whole, q.decimals, q.suffix⟩

end Quantity

/-! ## No blank inside -/

theorem not_isBlank_of_isDigit {c : Char} (h : c.isDigit = true) : Text.isBlank c = false := by
  simp only [Char.isDigit, Bool.and_eq_true, decide_eq_true_eq, UInt32.le_iff_toNat_le] at h
  obtain ⟨hlow, hhigh⟩ := h
  change 48 ≤ c.toNat at hlow
  change c.toNat ≤ 57 at hhigh
  simp only [Text.isBlank, Bool.or_eq_false_iff, Bool.and_eq_false_imp, decide_eq_true_eq,
    decide_eq_false_iff_not, beq_eq_false_iff_ne]
  omega

theorem Text.Sign.blankFree (sign : Sign) : BlankFree sign.chars := by
  cases sign with
  | unsaid => decide
  | plus => decide
  | minus => decide

theorem Text.WritesInt.blankFree {cs : List Char} {n : Int} (h : WritesInt cs n) :
    BlankFree cs := by
  obtain ⟨sign, digits, _, hdigits, rfl, _⟩ := h
  intro c hc
  rcases List.mem_append.mp hc with hc | hc
  · exact sign.blankFree c hc
  · exact not_isBlank_of_isDigit (hdigits c hc)

namespace Scale.Writes

variable {suffix : List Char} {scale : Scale}

/-- None of the characters is a blank, and none goes on with a number. -/
def Stop (letters : List Char) : Prop :=
  ∀ c ∈ letters, Text.isBlank c = false ∧ Numeral.isNumberChar c = false

instance (letters : List Char) : Decidable (Stop letters) := List.decidableBAll _ letters

/-- A suffix has no blank, and its first character does not go on with the
number. -/
theorem stops (h : Writes suffix scale) :
    Text.BlankFree suffix ∧ ∀ c ∈ suffix.head?, Numeral.isNumberChar c = false := by
  have hbinary : Stop "KMGTPE".toList := by decide
  have hdecimal : Stop "kMGTPE".toList := by decide
  have hfraction : Stop "mun".toList := by decide
  unfold Text.BlankFree
  cases h with
  | plain => simp
  | binary h =>
    have hletter := hbinary _ (List.mem_of_getElem? h)
    refine ⟨?_, by simpa using hletter.2⟩
    simp only [List.forall_mem_cons, List.not_mem_nil, false_implies, implies_true, and_true]
    exact ⟨hletter.1, by decide⟩
  | decimal h => simpa using hdecimal _ (List.mem_of_getElem? h)
  | fraction h => simpa using hfraction _ (List.mem_of_getElem? h)
  | power he hn =>
    rcases he with rfl | rfl
    · exact ⟨List.forall_mem_cons.mpr ⟨by decide, hn.blankFree⟩, by simp; decide⟩
    · exact ⟨List.forall_mem_cons.mpr ⟨by decide, hn.blankFree⟩, by simp; decide⟩

end Scale.Writes

namespace Quantity

variable (q : Quantity)

theorem isDigits_whole : Text.IsDigits q.whole := (Text.isDigits_append.mp q.isDigits).1

theorem isDigits_decimals : Text.IsDigits q.decimals := (Text.isDigits_append.mp q.isDigits).2

theorem mem_point {c : Char} (h : c ∈ q.point) : c = '.' ∨ c ∈ q.decimals := by
  unfold point decimals at *
  rcases hf : q.fraction with _ | fraction
  · rw [hf] at h
    cases h
  · rw [hf] at h
    exact List.mem_cons.mp h

theorem not_isBlank {c : Char} (h : c ∈ q.chars) : Text.isBlank c = false := by
  simp only [chars, List.mem_append] at h
  rcases h with h | h | h | h
  · exact q.sign.blankFree c h
  · exact not_isBlank_of_isDigit (q.isDigits_whole c h)
  · rcases q.mem_point h with rfl | h
    · decide
    · exact not_isBlank_of_isDigit (q.isDigits_decimals c h)
  · exact q.scaled.stops.1 c h

/-- What comes behind the sign begins with a digit or with the dot. -/
theorem head?_number (rest : List Char) : ∃ c, (q.whole ++ (q.point ++ rest)).head? = some c ∧
    (c.isDigit = true ∨ c = '.') := by
  rcases hw : q.whole with _ | ⟨c, whole⟩
  · have hne := q.ne_nil
    rw [hw, List.nil_append] at hne
    unfold point
    rcases hf : q.fraction with _ | fraction
    · exact absurd (by rw [hf]; rfl) hne
    · exact ⟨'.', rfl, .inr rfl⟩
  · exact ⟨c, rfl, .inl (q.isDigits_whole c (by rw [hw]; exact List.mem_cons_self))⟩

theorem absent_number (rest : List Char) : Text.Sign.Absent (q.whole ++ (q.point ++ rest)) := by
  intro c hc
  obtain ⟨x, hx, hdigit⟩ := q.head?_number rest
  rw [hx] at hc
  obtain rfl := Option.mem_some_iff.mp hc
  rcases hdigit with hdigit | rfl
  · exact ⟨Text.ne_of_isDigit hdigit rfl, Text.ne_of_isDigit hdigit rfl⟩
  · exact ⟨by decide, by decide⟩

theorem chars_ne_nil : q.chars ≠ [] := by
  obtain ⟨c, hc, _⟩ := q.head?_number q.suffix
  intro hnil
  have hrest := (List.append_eq_nil_iff.mp hnil).2
  rw [hrest] at hc
  cases hc

end Quantity

/-! ## Taking apart -/

namespace Numeral

theorem isNumberChar_iff (c : Char) : isNumberChar c = true ↔ c.isDigit = true ∨ c = '.' := by
  simp [isNumberChar]

theorem ofChars_eq (cs : List Char) :
    ofChars cs = ofChars.unsigned (Text.Sign.cut cs).1.isMinus (Text.Sign.cut cs).2 := by
  unfold ofChars
  split
  · rfl
  · rfl
  · rename_i hminus hplus
    rw [Text.Sign.cut_of_absent (Text.Sign.absent_of_ne hminus hplus)]
    rfl

/-- The reader finds the parts that a quantity is put together from. -/
theorem ofChars_chars (q : Quantity) : ofChars q.chars = q.numeral := by
  have hnumber : ∀ c ∈ q.whole ++ q.point, isNumberChar c = true := by
    intro c hc
    rw [isNumberChar_iff]
    rcases List.mem_append.mp hc with hc | hc
    · exact .inl (q.isDigits_whole c hc)
    · exact (q.mem_point hc).symm.imp_left (q.isDigits_decimals c)
  have hwhole : ∀ c ∈ q.whole, (c != '.') = true := fun c hc =>
    bne_iff_ne.mpr (Text.ne_of_isDigit (q.isDigits_whole c hc) rfl)
  have hpoint : ∀ c ∈ q.point.head?, (c != '.') = false := by
    unfold Quantity.point
    rcases q.fraction with _ | fraction
    · simp
    · simp
  have hdecimals : q.point.drop 1 = q.decimals := by
    unfold Quantity.point Quantity.decimals
    rcases q.fraction with _ | fraction
    · rfl
    · rfl
  have hstop := q.scaled.stops.2
  rw [ofChars_eq, Quantity.chars, Text.Sign.cut_append (q.absent_number q.suffix)]
  unfold ofChars.unsigned
  simp only
  rw [← List.append_assoc, Text.takeWhile_append_of_stop hnumber hstop,
    Text.dropWhile_append_of_stop hnumber hstop, Text.takeWhile_append_of_stop hwhole hpoint,
    Text.dropWhile_append_of_stop hwhole hpoint, hdecimals]
  rfl

/-- A number is cut at its first dot, if there is one. -/
theorem exists_point (number : List Char) (h : ∀ c ∈ number, isNumberChar c = true) :
    let whole := number.takeWhile (· != '.')
    ∃ fraction : Option (List Char), Text.IsDigits whole ∧
      number = whole ++ fraction.elim [] ('.' :: ·) ∧
      (number.dropWhile (· != '.')).drop 1 = fraction.getD [] := by
  intro whole
  have hwhole : Text.IsDigits whole := by
    intro c hc
    have hdot := List.mem_takeWhile_imp hc
    rcases (isNumberChar_iff c).mp (h c ((List.takeWhile_prefix _).subset hc)) with hdigit | rfl
    · exact hdigit
    · cases hdot
  have hnumber := List.takeWhile_append_dropWhile (p := (· != '.')) (l := number)
  rcases hrest : number.dropWhile (· != '.') with _ | ⟨dot, fraction⟩
  · rw [hrest] at hnumber
    exact ⟨none, hwhole, hnumber.symm, rfl⟩
  · have hdot := List.head?_dropWhile_not (· != '.') number
    rw [hrest] at hdot hnumber
    obtain rfl : dot = '.' := by simpa using hdot
    exact ⟨some fraction, hwhole, hnumber.symm, rfl⟩

/-- What the reader accepts has been put together from the parts of a
quantity. -/
theorem exists_quantity {cs : List Char} {scale : Scale} (hwritten : (ofChars cs).isWritten = true)
    (hscale : Scale.ofSuffix? (ofChars cs).suffix = some scale) :
    ∃ q : Quantity, q.chars = cs ∧ q.scale = scale := by
  rw [ofChars_eq] at hwritten hscale
  -- The reader keeps the sign and the text behind it; from here on they are any.
  have hcs := Text.Sign.chars_append_cut cs
  generalize (Text.Sign.cut cs).1 = sign at *
  generalize (Text.Sign.cut cs).2 = body at *
  have hbody := List.takeWhile_append_dropWhile (p := isNumberChar) (l := body)
  unfold ofChars.unsigned isWritten at hwritten
  unfold ofChars.unsigned at hscale
  simp only at hwritten hscale
  obtain ⟨fraction, hwhole, hnumber, hfraction⟩ :=
    exists_point (body.takeWhile isNumberChar) fun c hc => List.mem_takeWhile_imp hc
  rw [hfraction, Bool.and_eq_true, List.all_eq_true] at hwritten
  obtain ⟨hsome, hdigits⟩ := hwritten
  refine ⟨⟨sign, _, fraction, _, scale, Text.isDigits_append.mpr ⟨hwhole, hdigits⟩, ?_,
    Scale.ofSuffix?_eq_some_iff.mp hscale⟩, ?_, rfl⟩
  · intro hnil
    obtain ⟨hno, hno'⟩ := List.append_eq_nil_iff.mp hnil
    rw [hno, hno'] at hsome
    cases hsome
  · have hparts : (body.takeWhile isNumberChar).takeWhile (· != '.') ++
        (fraction.elim [] ('.' :: ·) ++ body.dropWhile isNumberChar) = body := by
      rw [← List.append_assoc, ← hnumber, hbody]
    exact (congrArg (sign.chars ++ ·) hparts).trans hcs

end Numeral

/-! ## Reading -/

namespace Quantity

/-- The reader takes a quantity apart, with blanks around it or not. -/
theorem ofChars_of_standsIn {q : Quantity} {raw : String} (h : q.StandsIn raw) :
    Numeral.ofChars (Text.trimChars raw.toList) = q.numeral := by
  obtain ⟨before, after, hbefore, hafter, hraw⟩ := h
  have htrim : Text.IsTrim q.chars :=
    ⟨fun c hc => q.not_isBlank (List.mem_of_mem_head? hc),
      fun c hc => q.not_isBlank (List.mem_of_mem_getLast? hc)⟩
  rw [hraw, Text.trimChars_append hbefore hafter htrim q.chars_ne_nil, Numeral.ofChars_chars]

/-- A text from which a numeral with a scale can be read is a quantity. -/
theorem exists_standsIn {raw : String} {scale : Scale}
    (hwritten : (Numeral.ofChars (Text.trimChars raw.toList)).isWritten = true)
    (hscale : Scale.ofSuffix? (Numeral.ofChars (Text.trimChars raw.toList)).suffix = some scale) :
    ∃ q : Quantity, q.StandsIn raw ∧ q.scale = scale := by
  obtain ⟨q, hq, hscale⟩ := Numeral.exists_quantity hwritten hscale
  obtain ⟨before, after, hbefore, hafter, hraw⟩ := Text.exists_trimChars raw.toList
  exact ⟨q, ⟨before, after, hbefore, hafter, hq ▸ hraw⟩, hscale⟩

theorem isWritten_numeral (q : Quantity) : q.numeral.isWritten = true := by
  have hdecimals : q.decimals.all Char.isDigit = true := List.all_eq_true.mpr q.isDigits_decimals
  have hne : ¬(q.whole.isEmpty = true ∧ q.decimals.isEmpty = true) := by
    rintro ⟨hwhole, hnone⟩
    refine q.ne_nil (List.append_eq_nil_iff.mpr ⟨List.isEmpty_iff.mp hwhole, ?_⟩)
    exact List.isEmpty_iff.mp hnone
  unfold Numeral.isWritten numeral
  simp only [hdecimals, Bool.and_true, Bool.not_eq_true', Bool.and_eq_false_imp]
  intro hwhole
  exact Bool.eq_false_iff.mpr fun hnone => hne ⟨hwhole, hnone⟩

end Quantity

end VolumeSync
