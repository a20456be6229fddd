import Mathlib.Data.Option.Basic
import VolumeSync.Json.Reader
import VolumeSync.Proofs.JsonWords
import VolumeSync.Proofs.TextRuns

-- The grammar of JSON text: which characters may be written for a value, said
-- without the reader. The reader takes the characters of a value into the words
-- of the value, whatever text comes after it, and so it accepts every text of
-- the grammar, as the value that the text is written for.

namespace VolumeSync.Json

/-! ## The grammar of strings -/

/-- The letters behind a backslash, and the characters they stand for. -/
def escapes : List (Char × Char) :=
  [('"', '"'), ('\\', '\\'), ('/', '/'), ('b', '\x08'), ('f', '\x0c'), ('n', '\n'), ('r', '\r'),
    ('t', '\t')]

/-- Four hexadecimal digits for a number of 16 bits. -/
def WritesUnit (cs : List Char) (n : Nat) : Prop := cs.length = 4 ∧ Text.hexNumber? cs = some n

instance (cs : List Char) (n : Nat) : Decidable (WritesUnit cs n) :=
  inferInstanceAs (Decidable (_ ∧ _))

/-- The characters are written for the piece inside a string: a character as it
is or by its letter, and a unit by its digits. -/
inductive WritesPiece : List Char → Piece → Prop where
  | plain {c : Char} (hcontrol : 0x20 ≤ c.toNat) (hquote : c ≠ '"') (hback : c ≠ '\\') :
      WritesPiece [c] (.char c)
  | letter {letter c : Char} (h : (letter, c) ∈ escapes) : WritesPiece ['\\', letter] (.char c)
  | unit {digits : List Char} {n : Nat} (h : WritesUnit digits n) :
      WritesPiece ('\\' :: 'u' :: digits) (.unit n)

/-- The characters are written for the pieces inside a string. -/
inductive WritesPieces : List Char → List Piece → Prop where
  | nil : WritesPieces [] []
  | cons {written rest : List Char} {piece : Piece} {pieces : List Piece}
      (h : WritesPiece written piece) (hrest : WritesPieces rest pieces) :
      WritesPieces (written ++ rest) (piece :: pieces)

/-- The pieces denote the characters. A unit is the number of a character, or it
is the first half of a number with more than 16 bits and the second half comes
next. -/
inductive Denotes : List Piece → List Char → Prop where
  | nil : Denotes [] []
  | char {c : Char} {pieces : List Piece} {cs : List Char} (h : Denotes pieces cs) :
      Denotes (.char c :: pieces) (c :: cs)
  | unit {c : Char} {pieces : List Piece} {cs : List Char} (h : Denotes pieces cs) :
      Denotes (.unit c.toNat :: pieces) (c :: cs)
  | halves {c : Char} {pieces : List Piece} {cs : List Char} (hwide : 0x10000 ≤ c.toNat)
      (h : Denotes pieces cs) :
      Denotes (.unit (0xD800 + (c.toNat - 0x10000) / 0x400) ::
        .unit (0xDC00 + (c.toNat - 0x10000) % 0x400) :: pieces) (c :: cs)

/-- The pieces denote a text, or there is none that they denote. -/
inductive Denoted : List Piece → Literal → Prop where
  | text {pieces : List Piece} {s : String} (h : Denotes pieces s.toList) :
      Denoted pieces (some s)
  | nothing {pieces : List Piece} (h : ∀ cs, ¬ Denotes pieces cs) : Denoted pieces none

/-! ## The grammar of numbers -/

/-- Digits without a zero in front. -/
structure IsWhole (cs : List Char) : Prop where
  digits : Text.IsDigits cs
  ne_nil : cs ≠ []
  zero : cs.head? = some '0' → cs = ['0']

/-- A dot and digits behind it, or nothing. -/
inductive IsFraction : List Char → Prop where
  | absent : IsFraction []
  | digits {cs : List Char} (h : Text.IsDigits cs) (hne : cs ≠ []) : IsFraction ('.' :: cs)

/-- The letter e, a sign or none, and digits, or nothing. -/
inductive IsExponent : List Char → Prop where
  | absent : IsExponent []
  | digits {e : Char} {sign cs : List Char} (he : e = 'e' ∨ e = 'E')
      (hsign : sign = [] ∨ sign = ['+'] ∨ sign = ['-']) (h : Text.IsDigits cs) (hne : cs ≠ []) :
      IsExponent (e :: (sign ++ cs))

/-- The characters are written for the number. Minus zero is no integer. -/
inductive WritesNumber : List Char → Json → Prop where
  | int {cs : List Char} (h : IsWhole cs) : WritesNumber cs (.int (Text.digitsValue cs))
  | negative {cs : List Char} (h : IsWhole cs) (hzero : cs ≠ ['0']) :
      WritesNumber ('-' :: cs) (.int (-(Text.digitsValue cs : Int)))
  | minusZero : WritesNumber ['-', '0'] (.real "-0")
  | real {sign whole fraction exponent : List Char} (hsign : sign = [] ∨ sign = ['-'])
      (hwhole : IsWhole whole) (hfraction : IsFraction fraction) (hexponent : IsExponent exponent)
      (h : fraction ++ exponent ≠ []) :
      WritesNumber (sign ++ (whole ++ (fraction ++ exponent)))
        (.real (String.ofList (sign ++ (whole ++ (fraction ++ exponent)))))

/-! ## The grammar of values -/

/-- A member of an object in writing: a string, the value under it, and the
characters that each of them is written in. -/
structure WrittenMember where
  keyText : List Char
  key : Literal
  valueText : List Char
  value : Json

/-- The characters of a member. -/
def WrittenMember.text (m : WrittenMember) : List Char := m.keyText ++ ':' :: m.valueText

/-- The characters are written for the value. Blanks may stand around every
value and every key. -/
inductive Writes : List Char → Json → Prop where
  | blankBefore {c : Char} {cs : List Char} {value : Json} (hc : isGap c = true)
      (h : Writes cs value) : Writes (c :: cs) value
  | blankAfter {c : Char} {cs : List Char} {value : Json} (hc : isGap c = true)
      (h : Writes cs value) : Writes (cs ++ [c]) value
  | null : Writes "null".toList .null
  | true : Writes "true".toList (.bool true)
  | false : Writes "false".toList (.bool false)
  | number {cs : List Char} {value : Json} (h : WritesNumber cs value) : Writes cs value
  | str {cs : List Char} {pieces : List Piece} {value : Literal} (h : WritesPieces cs pieces)
      (hvalue : Denoted pieces value) : Writes ('"' :: (cs ++ ['"'])) (.str value)
  | list {blanks : List Char} {items : List (List Char × Json)}
      (hblanks : ∀ c ∈ blanks, isGap c = true) (h : ∀ item ∈ items, Writes item.1 item.2) :
      Writes ('[' :: (blanks ++ ([','].intercalate (items.map (·.1)) ++ [']'])))
        (.list (items.map (·.2)))
  | object {blanks : List Char} {members : List WrittenMember}
      (hblanks : ∀ c ∈ blanks, isGap c = true)
      (hkeys : ∀ member ∈ members, Writes member.keyText (.str member.key))
      (hvalues : ∀ member ∈ members, Writes member.valueText member.value) :
      Writes ('\x7b' :: (blanks ++ ([','].intercalate (members.map (·.text)) ++ ['\x7d'])))
        (.object (members.map fun m => (m.key, m.value)))

/-! ## Numbers -/

section Numbers

variable {cs rest : List Char}

theorem skipDigits?_append (h : Text.IsDigits cs) (hne : cs ≠ [])
    (hrest : ∀ c ∈ rest.head?, c.isDigit = false) : skipDigits? (cs ++ rest) = some rest := by
  obtain ⟨c, cs, rfl⟩ := List.exists_cons_of_ne_nil hne
  obtain ⟨hc, hcs⟩ := List.forall_mem_cons.mp h
  rw [List.cons_append, skipDigits?, if_pos hc, Text.dropWhile_append_of_stop hcs hrest]

theorem skipWhole?_append (h : IsWhole cs) (hrest : ∀ c ∈ rest.head?, c.isDigit = false) :
    skipWhole? (cs ++ rest) = some rest := by
  by_cases hzero : cs.head? = some '0'
  · rw [h.zero hzero]
    rfl
  · rw [← skipDigits?_append h.digits h.ne_nil hrest]
    obtain ⟨c, cs, rfl⟩ := List.exists_cons_of_ne_nil h.ne_nil
    exact skipWhole?.eq_2 _ fun rest heq => hzero (by rw [(List.cons.inj heq).1]; rfl)

theorem skipFraction?_append (h : IsFraction cs)
    (hrest : ∀ c ∈ rest.head?, c.isDigit = false ∧ c ≠ '.') :
    skipFraction? (cs ++ rest) = some rest := by
  cases h with
  | absent =>
    refine skipFraction?.eq_2 _ fun more heq => ?_
    rw [List.nil_append] at heq
    exact (hrest '.' (by rw [heq]; rfl)).2 rfl
  | digits h hne => exact skipDigits?_append h hne fun c hc => (hrest c hc).1

theorem skipExponent?_eq (h : IsExponent cs) : skipExponent? cs = some [] := by
  cases h with
  | absent => rfl
  | @digits e sign cs he hsign h hne =>
    have hskip : skipDigits? cs = some [] := by
      have hall := @skipDigits?_append cs [] h hne (fun c hc => by cases hc)
      rwa [List.append_nil] at hall
    have he : (e == 'e' || e == 'E') = true := by simpa using he
    rcases hsign with rfl | rfl | rfl
    · -- A digit stands where a sign would.
      obtain ⟨c, cs, rfl⟩ := List.exists_cons_of_ne_nil hne
      have hc := h c List.mem_cons_self
      have hplus := Text.ne_of_isDigit (x := '+') hc rfl
      have hminus := Text.ne_of_isDigit (x := '-') hc rfl
      simp [skipExponent?, he, hplus, hminus, hskip]
    · simp [skipExponent?, he, hskip]
    · simp [skipExponent?, he, hskip]

theorem IsFraction.head? (h : IsFraction cs) : ∀ c ∈ cs.head?, c = '.' := by
  cases h with
  | absent => simp
  | digits => simp

theorem IsExponent.head? (h : IsExponent cs) : ∀ c ∈ cs.head?, c = 'e' ∨ c = 'E' := by
  cases h with
  | absent => simp
  | digits he => simpa using he

/-- The parts of a number are skipped one after another. -/
theorem number?_append {whole fraction exponent : List Char} (negative : Bool)
    (hwhole : IsWhole whole) (hfraction : IsFraction fraction) (hexponent : IsExponent exponent) :
    number? ((if negative then ['-'] else []) ++ (whole ++ (fraction ++ exponent))) =
      some (if (fraction ++ exponent).isEmpty then
          integer negative (whole ++ (fraction ++ exponent))
        else .real (String.ofList
          ((if negative then ['-'] else []) ++ (whole ++ (fraction ++ exponent))))) := by
  have hexp : ∀ c ∈ exponent.head?, c.isDigit = false ∧ c ≠ '.' := by
    intro c hc
    rcases hexponent.head? c hc with rfl | rfl
    · decide
    · decide
  have htail : ∀ c ∈ (fraction ++ exponent).head?, c.isDigit = false := by
    intro c hc
    rcases hfrac : fraction with _ | ⟨x, cs⟩
    · rw [hfrac] at hc
      exact (hexp c hc).1
    · rw [hfrac] at hc hfraction
      rw [hfraction.head? c hc]
      rfl
  have hskip := skipWhole?_append hwhole htail
  have hminus : ∀ more, whole ++ (fraction ++ exponent) ≠ '-' :: more := by
    intro more heq
    obtain ⟨c, cs, hcs⟩ := List.exists_cons_of_ne_nil hwhole.ne_nil
    rw [hcs, List.cons_append] at heq
    have hc := hwhole.digits c (by rw [hcs]; exact List.mem_cons_self)
    exact Text.ne_of_isDigit hc rfl (List.cons.inj heq).1
  have hparts := skipFraction?_append hfraction hexp
  have hend := skipExponent?_eq hexponent
  cases negative with
  | true => simp [number?, hskip, hparts, hend, apply_ite some]
  | false =>
    simp only [Bool.false_eq_true, if_false, List.nil_append]
    unfold number?
    split
    rename_i negative rest heq
    split at heq
    · rename_i more h
      exact absurd h (hminus more)
    · obtain ⟨rfl, rfl⟩ := Prod.mk.inj heq
      simp [hskip, hparts, hend, apply_ite some]

end Numbers

/-- A whole part that is not the digit zero is the digits of a positive
number. -/
theorem IsWhole.digitsValue_ne_zero {cs : List Char} (h : IsWhole cs) (hzero : cs ≠ ['0']) :
    Text.digitsValue cs ≠ 0 := by
  obtain ⟨c, cs, rfl⟩ := List.exists_cons_of_ne_nil h.ne_nil
  have hdigit := h.digits c List.mem_cons_self
  have hne : c ≠ '0' := fun hc => hzero (h.zero (by rw [hc]; rfl))
  have hoffset : 0 < Text.digitOffset c := by
    have hnat : c.toNat ≠ 48 := fun hc => hne (Char.toNat_inj.mp hc)
    have hle : 48 ≤ c.toNat := by
      simp only [Char.isDigit, Bool.and_eq_true, decide_eq_true_eq] at hdigit
      exact hdigit.1
    have hzero : '0'.toNat = 48 := rfl
    rw [Text.digitOffset]
    omega
  have hle := Text.le_digitsFrom (10 * 0 + Text.digitOffset c) cs
  rw [Text.digitsValue, Text.digitsFrom_cons]
  omega

theorem WritesNumber.number? {cs : List Char} {value : Json} (h : WritesNumber cs value) :
    Json.number? cs = some value := by
  cases h with
  | int h =>
    have hall := number?_append false h .absent .absent
    simpa [integer] using hall
  | @negative digits h hzero =>
    have hall := number?_append true h .absent .absent
    have hne := h.digitsValue_ne_zero hzero
    simpa [integer, hne] using hall
  | minusZero => rfl
  | @real sign whole fraction exponent hsign hwhole hfraction hexponent hne =>
    have hne : (fraction ++ exponent).isEmpty = false := by simpa using hne
    rcases hsign with rfl | rfl
    · have hall := number?_append false hwhole hfraction hexponent
      rw [hne] at hall
      exact hall
    · have hall := number?_append true hwhole hfraction hexponent
      rw [hne] at hall
      exact hall

theorem isPlainChar_of_isDigit {c : Char} (h : c.isDigit = true) : isPlainChar c = true := by
  simp [isPlainChar, Char.isAlphanum, h]

/-- A text that begins with a digit or a minus sign is no name. -/
theorem plain?_eq_number? {c : Char} {cs : List Char} (h : c.isDigit = true ∨ c = '-') :
    plain? (c :: cs) = number? (c :: cs) := by
  have hne : c ≠ 'n' ∧ c ≠ 't' ∧ c ≠ 'f' := by
    refine ⟨?_, ?_, ?_⟩ <;> rintro rfl <;> revert h <;> decide
  simp [plain?, hne]

/-- A number begins with a digit or a minus sign. -/
theorem WritesNumber.exists_cons {cs : List Char} {value : Json} (h : WritesNumber cs value) :
    ∃ c rest, cs = c :: rest ∧ (c.isDigit = true ∨ c = '-') := by
  have hwhole : ∀ {cs : List Char}, IsWhole cs → ∃ c rest, cs = c :: rest ∧ c.isDigit = true := by
    intro cs h
    obtain ⟨c, rest, rfl⟩ := List.exists_cons_of_ne_nil h.ne_nil
    exact ⟨c, rest, rfl, h.digits c List.mem_cons_self⟩
  cases h with
  | int h =>
    obtain ⟨c, rest, rfl, hc⟩ := hwhole h
    exact ⟨c, rest, rfl, .inl hc⟩
  | negative => exact ⟨'-', _, rfl, .inr rfl⟩
  | minusZero => exact ⟨'-', _, rfl, .inr rfl⟩
  | @real sign whole fraction exponent hsign h =>
    obtain ⟨c, rest, rfl, hc⟩ := hwhole h
    rcases hsign with rfl | rfl
    · exact ⟨c, rest ++ (fraction ++ exponent), rfl, .inl hc⟩
    · exact ⟨'-', _, rfl, .inr rfl⟩

/-- A number is one run of letters, digits, dots and signs. -/
theorem WritesNumber.isPlainChar {cs : List Char} {value : Json} (h : WritesNumber cs value) :
    ∀ c ∈ cs, isPlainChar c = true := by
  have hdigits : ∀ {cs : List Char}, Text.IsDigits cs → ∀ c ∈ cs, Json.isPlainChar c = true :=
    fun h c hc => isPlainChar_of_isDigit (h c hc)
  have hfraction : ∀ {cs : List Char}, IsFraction cs → ∀ c ∈ cs, Json.isPlainChar c = true := by
    intro cs h
    cases h with
    | absent => exact List.forall_mem_nil _
    | digits h => exact List.forall_mem_cons.mpr ⟨rfl, hdigits h⟩
  have hexponent : ∀ {cs : List Char}, IsExponent cs → ∀ c ∈ cs, Json.isPlainChar c = true := by
    intro cs h
    cases h with
    | absent => exact List.forall_mem_nil _
    | digits he hsign h =>
      refine List.forall_mem_cons.mpr ⟨?_, List.forall_mem_append.mpr ⟨?_, hdigits h⟩⟩
      · rcases he with rfl | rfl <;> rfl
      · rcases hsign with rfl | rfl | rfl <;> simp [Json.isPlainChar]
  cases h with
  | int h => exact hdigits h.digits
  | negative h => exact List.forall_mem_cons.mpr ⟨rfl, hdigits h.digits⟩
  | minusZero => exact List.forall_mem_cons.mpr ⟨rfl, List.forall_mem_singleton.mpr rfl⟩
  | real hsign hwhole hfrac hexp =>
    refine List.forall_mem_append.mpr ⟨?_, List.forall_mem_append.mpr ⟨hdigits hwhole.digits,
      List.forall_mem_append.mpr ⟨hfraction hfrac, hexponent hexp⟩⟩⟩
    rcases hsign with rfl | rfl <;> simp [Json.isPlainChar]

theorem WritesNumber.plain? {cs : List Char} {value : Json} (h : WritesNumber cs value) :
    Json.plain? cs = some value := by
  obtain ⟨c, rest, rfl, hc⟩ := h.exists_cons
  rw [plain?_eq_number? hc, h.number?]

/-! ## Strings -/

theorem not_isHalf_toNat (c : Char) :
    isHighHalf c.toNat = false ∧ isLowHalf c.toNat = false := by
  have hvalid : c.toNat < 0xD800 ∨ 0xDFFF < c.toNat ∧ c.toNat < 0x110000 := c.valid
  simp only [isHighHalf, isLowHalf, Bool.and_eq_false_iff, decide_eq_false_iff_not]
  omega

/-- A unit that is no half is a character of its own, whatever comes after it. -/
theorem charsOfPieces?_unit {n : Nat} (hhigh : isHighHalf n = false) (hlow : isLowHalf n = false)
    (pieces : List Piece) :
    charsOfPieces? (.unit n :: pieces) = (charsOfPieces? pieces).map (Char.ofNat n :: ·) := by
  rcases pieces with _ | ⟨_ | _, pieces⟩
  · simp [charsOfPieces?, hhigh, hlow]
  · simp [charsOfPieces?, hhigh, hlow]
  · simp [charsOfPieces?, hhigh, hlow]

theorem charsOfPieces?_halves {c : Char} (h : 0x10000 ≤ c.toNat) (pieces : List Piece) :
    charsOfPieces? (.unit (0xD800 + (c.toNat - 0x10000) / 0x400) ::
      .unit (0xDC00 + (c.toNat - 0x10000) % 0x400) :: pieces) =
      (charsOfPieces? pieces).map (c :: ·) := by
  have hvalid : c.toNat < 0xD800 ∨ 0xDFFF < c.toNat ∧ c.toNat < 0x110000 := c.valid
  have hhigh : isHighHalf (0xD800 + (c.toNat - 0x10000) / 0x400) = true := by
    simp only [isHighHalf, Bool.and_eq_true, decide_eq_true_eq]
    omega
  have hlow : isLowHalf (0xDC00 + (c.toNat - 0x10000) % 0x400) = true := by
    simp only [isLowHalf, Bool.and_eq_true, decide_eq_true_eq]
    omega
  have hjoin : joinHalves (0xD800 + (c.toNat - 0x10000) / 0x400)
      (0xDC00 + (c.toNat - 0x10000) % 0x400) = c := by
    have hsum : 0x10000 + (0xD800 + (c.toNat - 0x10000) / 0x400 - 0xD800) * 0x400 +
        (0xDC00 + (c.toNat - 0x10000) % 0x400 - 0xDC00) = c.toNat := by omega
    rw [joinHalves, hsum, Char.ofNat_toNat]
  simp [charsOfPieces?, hhigh, hlow, hjoin]

theorem Denotes.charsOfPieces? {pieces : List Piece} {cs : List Char} (h : Denotes pieces cs) :
    Json.charsOfPieces? pieces = some cs := by
  induction h with
  | nil => rfl
  | char _ ih => rw [Json.charsOfPieces?, ih, Option.map_some]
  | @unit c _ _ _ ih =>
    obtain ⟨hhigh, hlow⟩ := not_isHalf_toNat c
    rw [charsOfPieces?_unit hhigh hlow, ih, Option.map_some, Char.ofNat_toNat]
  | halves hwide _ ih => rw [charsOfPieces?_halves hwide, ih, Option.map_some]

theorem toNat_ofNat_of_isValidChar {n : Nat} (h : n.isValidChar) : (Char.ofNat n).toNat = n := by
  rw [Char.ofNat, dif_pos h]
  rfl

theorem denotes_unit {n : Nat} (hhigh : isHighHalf n = false) (hlow : isLowHalf n = false)
    (hn : n < 0x10000) {pieces : List Piece} {cs : List Char} (h : Denotes pieces cs) :
    Denotes (.unit n :: pieces) (Char.ofNat n :: cs) := by
  have hvalid : n < 0xD800 ∨ 0xDFFF < n ∧ n < 0x110000 := by
    simp only [isHighHalf, isLowHalf, Bool.and_eq_false_iff, decide_eq_false_iff_not] at hhigh hlow
    omega
  have hunit : Denotes (.unit (Char.ofNat n).toNat :: pieces) (Char.ofNat n :: cs) := .unit h
  rwa [toNat_ofNat_of_isValidChar hvalid] at hunit

theorem denotes_halves {high low : Nat} (hhigh : isHighHalf high = true)
    (hlow : isLowHalf low = true) {pieces : List Piece} {cs : List Char} (h : Denotes pieces cs) :
    Denotes (.unit high :: .unit low :: pieces) (joinHalves high low :: cs) := by
  simp only [isHighHalf, isLowHalf, Bool.and_eq_true, decide_eq_true_eq] at hhigh hlow
  have hvalid : Nat.isValidChar (0x10000 + (high - 0xD800) * 0x400 + (low - 0xDC00)) :=
    Or.inr ⟨by omega, by omega⟩
  have hnat : (joinHalves high low).toNat = 0x10000 + (high - 0xD800) * 0x400 + (low - 0xDC00) :=
    toNat_ofNat_of_isValidChar hvalid
  have hfirst : 0xD800 + ((joinHalves high low).toNat - 0x10000) / 0x400 = high := by
    rw [hnat]
    omega
  have hsecond : 0xDC00 + ((joinHalves high low).toNat - 0x10000) % 0x400 = low := by
    rw [hnat]
    omega
  have hpair := Denotes.halves (c := joinHalves high low) (by omega) h
  rwa [hfirst, hsecond] at hpair

/-- What is made of pieces is what they denote. -/
theorem denotes_of_charsOfPieces? {pieces : List Piece} {cs : List Char}
    (hunits : ∀ n, .unit n ∈ pieces → n < 0x10000) (h : Json.charsOfPieces? pieces = some cs) :
    Denotes pieces cs := by
  induction pieces using Json.charsOfPieces?.induct generalizing cs with
  | case1 =>
    obtain rfl := Option.some.inj h
    exact .nil
  | case2 c rest ih =>
    rw [Json.charsOfPieces?, Option.map_eq_some_iff] at h
    obtain ⟨cs, hrest, rfl⟩ := h
    exact .char (ih (fun n hn => hunits n (List.mem_cons_of_mem _ hn)) hrest)
  | case3 high low rest hhigh hlow ih =>
    rw [Json.charsOfPieces?, if_pos hhigh, if_pos hlow, Option.map_eq_some_iff] at h
    obtain ⟨cs, hrest, rfl⟩ := h
    exact denotes_halves hhigh hlow (ih (fun n hn => hunits n (by simp [hn])) hrest)
  | case4 high low rest hhigh hlow =>
    rw [Json.charsOfPieces?, if_pos hhigh, if_neg hlow] at h
    cases h
  | case5 high low rest hhigh hlow =>
    rw [Json.charsOfPieces?, if_neg hhigh, if_pos hlow] at h
    cases h
  | case6 high low rest hhigh hlow ih =>
    rw [Json.charsOfPieces?, if_neg hhigh, if_neg hlow, Option.map_eq_some_iff] at h
    obtain ⟨cs, hrest, rfl⟩ := h
    exact denotes_unit (by simpa using hhigh) (by simpa using hlow) (hunits high List.mem_cons_self)
      (ih (fun n hn => hunits n (List.mem_cons_of_mem _ hn)) hrest)
  | case7 n rest hrest hhalf =>
    rw [Json.charsOfPieces?.eq_4 n rest hrest, if_pos hhalf] at h
    cases h
  | case8 n rest hrest hhalf ih =>
    rw [Json.charsOfPieces?.eq_4 n rest hrest, if_neg hhalf, Option.map_eq_some_iff] at h
    obtain ⟨cs, hrest, rfl⟩ := h
    rw [Bool.not_eq_true, Bool.or_eq_false_iff] at hhalf
    exact denotes_unit hhalf.1 hhalf.2 (hunits n List.mem_cons_self)
      (ih (fun n hn => hunits n (List.mem_cons_of_mem _ hn)) hrest)

theorem Denoted.literalOf {pieces : List Piece} {value : Literal}
    (hunits : ∀ n, .unit n ∈ pieces → n < 0x10000) (h : Denoted pieces value) :
    Json.literalOf pieces = value := by
  cases h with
  | text h => rw [Json.literalOf, h.charsOfPieces?, Option.map_some, String.ofList_toList]
  | nothing h =>
    rw [Json.literalOf, Option.map_eq_none_iff, Option.eq_none_iff_forall_ne_some]
    exact fun cs hcs => h cs (denotes_of_charsOfPieces? hunits hcs)

theorem lt_of_hexValue? {c : Char} {n : Nat} (h : Text.hexValue? c = some n) : n < 16 := by
  have hdigit : '0'.toNat = 48 ∧ 'a'.toNat = 97 ∧ 'A'.toNat = 65 := ⟨rfl, rfl, rfl⟩
  unfold Text.hexValue? at h
  split at h
  · rename_i hc
    have hle : c.toNat ≤ 57 := by
      simp only [Char.isDigit, Bool.and_eq_true, decide_eq_true_eq] at hc
      exact hc.2
    rw [Text.digitOffset, Option.some.injEq] at h
    omega
  · split at h
    · rename_i hc
      have hle : c.toNat ≤ 102 := hc.2
      rw [Option.some.injEq] at h
      omega
    · split at h
      · rename_i hc
        have hle : c.toNat ≤ 70 := hc.2
        rw [Option.some.injEq] at h
        omega
      · cases h

theorem WritesUnit.exists_digits {digits : List Char} {n : Nat} (h : WritesUnit digits n) :
    ∃ a b c d i j k l, digits = [a, b, c, d] ∧ Text.hexValue? a = some i ∧
      Text.hexValue? b = some j ∧ Text.hexValue? c = some k ∧ Text.hexValue? d = some l ∧
      16 * (16 * (16 * i + j) + k) + l = n := by
  obtain ⟨hlength, hnumber⟩ := h
  obtain ⟨a, b, c, d, rfl⟩ := List.length_eq_four.mp hlength
  simp only [Text.hexNumber?, List.foldlM_cons, List.foldlM_nil, Option.bind_eq_bind,
    Option.bind_eq_some_iff, Option.map_eq_some_iff, Option.pure_def, Option.some.injEq] at hnumber
  obtain ⟨_, ⟨i, ha, rfl⟩, _, ⟨j, hb, rfl⟩, _, ⟨k, hc, rfl⟩, _, ⟨l, hd, rfl⟩, rfl⟩ := hnumber
  exact ⟨a, b, c, d, i, j, k, l, rfl, ha, hb, hc, hd, by omega⟩

/-- Four digits give 16 bits. -/
theorem WritesUnit.lt {digits : List Char} {n : Nat} (h : WritesUnit digits n) : n < 0x10000 := by
  obtain ⟨a, b, c, d, i, j, k, l, _, ha, hb, hc, hd, rfl⟩ := h.exists_digits
  have hi := lt_of_hexValue? ha
  have hj := lt_of_hexValue? hb
  have hk := lt_of_hexValue? hc
  have hl := lt_of_hexValue? hd
  omega

theorem WritesPieces.unit_lt {written : List Char} {pieces : List Piece}
    (h : WritesPieces written pieces) : ∀ n, .unit n ∈ pieces → n < 0x10000 := by
  induction h with
  | nil => exact fun n hn => by cases hn
  | cons hpiece _ ih =>
    intro n hn
    rcases List.mem_cons.mp hn with rfl | hn
    · cases hpiece with
      | unit h => exact h.lt
    · exact ih n hn

/-! ## Strings as words -/

section Strings

variable {written : List Char} {piece : Piece} {pieces : List Piece} {value : Literal}

theorem WritesPiece.scan (h : WritesPiece written piece) (read : List Piece) (words : List Token)
    (rest : List Char) :
    scanFrom (.string read) words (written ++ rest) =
      scanFrom (.string (piece :: read)) words rest := by
  cases h with
  | plain hcontrol hquote hback =>
    simp [scanFrom, Place.step?, hquote, hback, isPlainInString, hcontrol]
  | @letter letter c h =>
    have hescaped : letter ≠ 'u' ∧ escaped? letter = some c :=
      (by decide : ∀ e ∈ escapes, e.1 ≠ 'u' ∧ escaped? e.1 = some e.2) (letter, c) h
    simp [scanFrom, Place.step?, hescaped]
  | unit h =>
    obtain ⟨a, b, c, d, i, j, k, l, rfl, ha, hb, hc, hd, rfl⟩ := h.exists_digits
    simp [scanFrom, Place.step?, ha, hb, hc, hd]

theorem WritesPieces.scan (h : WritesPieces written pieces) (read : List Piece)
    (words : List Token) (rest : List Char) :
    scanFrom (.string read) words (written ++ rest) =
      scanFrom (.string (pieces.reverse ++ read)) words rest := by
  induction h generalizing read with
  | nil => rfl
  | cons hpiece _ ih =>
    rw [List.append_assoc, hpiece.scan, ih, List.reverse_cons, List.append_assoc]
    rfl

theorem scanFrom_string (h : WritesPieces written pieces) (hvalue : Denoted pieces value)
    (words : List Token) (rest : List Char) :
    scanFrom .outside words ('"' :: (written ++ '"' :: rest)) =
      scanFrom .outside (.str value :: words) rest := by
  have hopen : scanFrom .outside words ('"' :: (written ++ '"' :: rest)) =
      scanFrom (.string []) words (written ++ '"' :: rest) := by
    simp [scanFrom, Place.step?, enter?, isGap]
  rw [hopen, h.scan]
  simp [scanFrom, Place.step?, hvalue.literalOf h.unit_lt]

end Strings

/-! ## Names and numbers as words -/

/-- The text does not go on with a character of a name or a number. -/
def Pauses (rest : List Char) : Prop := ∀ c ∈ rest.head?, isPlainChar c = false

theorem pauses_cons {c : Char} (h : isPlainChar c = false) (rest : List Char) :
    Pauses (c :: rest) := by
  intro x hx
  obtain rfl := Option.some.inj hx
  exact h

theorem isPlainChar_of_isGap {c : Char} (h : isGap c = true) : isPlainChar c = false := by
  simp only [isGap, Bool.or_eq_true, beq_iff_eq] at h
  rcases h with ((rfl | rfl) | rfl) | rfl <;> rfl

theorem enter?_of_isPlainChar {c : Char} (h : isPlainChar c = true) :
    enter? c = some (.plain [c], []) := by
  have hgap : isGap c = false := by
    rcases hg : isGap c with _ | _
    · rfl
    · rw [isPlainChar_of_isGap hg] at h
      cases h
  have hquote : c ≠ '"' := by
    rintro rfl
    cases h
  simp [enter?, hgap, hquote, h]

theorem scanFrom_plain {cs : List Char} (h : ∀ c ∈ cs, isPlainChar c = true) (read : List Char)
    (words : List Token) (rest : List Char) :
    scanFrom (.plain read) words (cs ++ rest) =
      scanFrom (.plain (cs.reverse ++ read)) words rest := by
  induction cs generalizing read with
  | nil => rfl
  | cons c cs ih =>
    have hc := h c List.mem_cons_self
    simp only [List.cons_append, scanFrom, Place.step?, hc, if_true, List.reverse_nil,
      List.nil_append]
    rw [ih (fun x hx => h x (List.mem_cons_of_mem _ hx)), List.reverse_cons, List.append_assoc]
    rfl

/-- A name or a number ends where the text does not go on with it. -/
theorem scanFrom_plain_end {read : List Char} {value : Json}
    (hvalue : plain? read.reverse = some value) (words : List Token) {rest : List Char}
    (hrest : Pauses rest) :
    scanFrom (.plain read) words rest = scanFrom .outside (.plain value :: words) rest := by
  rcases rest with _ | ⟨c, rest⟩
  · simp [scanFrom, Place.finish?, hvalue]
  · have hc : isPlainChar c = false := hrest c rfl
    simp only [scanFrom, Place.step?, hc, hvalue]
    rcases enter? c with _ | ⟨next, more⟩
    · rfl
    · simp

/-- What reads as a name or a number is one word. -/
theorem scanFrom_word {cs : List Char} {value : Json} (hne : cs ≠ [])
    (hplain : ∀ c ∈ cs, isPlainChar c = true) (hvalue : plain? cs = some value)
    (words : List Token) {rest : List Char} (hrest : Pauses rest) :
    scanFrom .outside words (cs ++ rest) = scanFrom .outside (.plain value :: words) rest := by
  rcases cs with _ | ⟨c, cs⟩
  · exact absurd rfl hne
  · have hc := hplain c List.mem_cons_self
    have hcs : ∀ x ∈ cs, isPlainChar x = true := fun x hx => hplain x (List.mem_cons_of_mem _ hx)
    simp only [List.cons_append, scanFrom, Place.step?, enter?_of_isPlainChar hc, List.reverse_nil,
      List.nil_append]
    rw [scanFrom_plain hcs]
    exact scanFrom_plain_end (by simpa using hvalue) words hrest

theorem scanFrom_punctuation {c : Char} {t : Token} (h : enter? c = some (.outside, [t]))
    (words : List Token) (rest : List Char) :
    scanFrom .outside words (c :: rest) = scanFrom .outside (t :: words) rest := by
  simp [scanFrom, Place.step?, h]

theorem scanFrom_blanks {blanks : List Char} (h : ∀ c ∈ blanks, isGap c = true)
    (words : List Token) (rest : List Char) :
    scanFrom .outside words (blanks ++ rest) = scanFrom .outside words rest := by
  induction blanks with
  | nil => rfl
  | cons c blanks ih =>
    obtain ⟨hc, hblanks⟩ := List.forall_mem_cons.mp h
    rw [List.cons_append, scanFrom, Place.step?, enter?, if_pos hc]
    exact ih hblanks

/-! ## Characters into words -/

/-- The characters are scanned into the words of the value, whatever comes
after them. -/
def Scans (cs : List Char) (value : Json) : Prop :=
  ∀ (words : List Token) (rest : List Char), Pauses rest →
    scanFrom .outside words (cs ++ rest) =
      scanFrom .outside (value.tokens.reverse ++ words) rest

theorem scans_blankBefore {c : Char} {cs : List Char} {value : Json} (hc : isGap c = true)
    (h : Scans cs value) : Scans (c :: cs) value := by
  intro words rest hrest
  have hskip := scanFrom_blanks (List.forall_mem_singleton.mpr hc) words (cs ++ rest)
  exact hskip.trans (h words rest hrest)

theorem scans_blankAfter {c : Char} {cs : List Char} {value : Json} (hc : isGap c = true)
    (h : Scans cs value) : Scans (cs ++ [c]) value := by
  intro words rest _
  rw [List.append_assoc, List.singleton_append,
    h _ _ (pauses_cons (isPlainChar_of_isGap hc) rest)]
  exact scanFrom_blanks (List.forall_mem_singleton.mpr hc) _ rest

theorem scans_plain {cs : List Char} {value : Json} (hne : cs ≠ [])
    (hplain : ∀ c ∈ cs, isPlainChar c = true) (hvalue : plain? cs = some value)
    (htokens : value.tokens = [.plain value]) : Scans cs value := by
  intro words rest hrest
  rw [scanFrom_word hne hplain hvalue words hrest, htokens]
  rfl

/-- Behind a comma, and at the end of a list or an object, no name and no
number goes on. -/
theorem pauses_after {α : Type} (written : α → List Char) (xs : List α) {c : Char}
    (hc : isPlainChar c = false) (rest : List Char) :
    Pauses (xs.flatMap (fun x => ',' :: written x) ++ c :: rest) := by
  rcases xs with _ | ⟨x, xs⟩
  · exact pauses_cons hc rest
  · exact pauses_cons rfl _

theorem intercalate_cons {α : Type} (written : α → List Char) (x : α) (xs : List α) :
    [','].intercalate ((x :: xs).map written) =
      written x ++ xs.flatMap fun x => ',' :: written x := by
  induction xs generalizing x with
  | nil => simp
  | cons y ys ih =>
    rw [List.map_cons, List.map_cons, List.intercalate_cons_cons, ← List.map_cons, ih]
    simp

section Lists

variable {items : List (List Char × Json)} (h : ∀ item ∈ items, Scans item.1 item.2)

include h

theorem scanFrom_itemsAfter (words : List Token) (rest : List Char) :
    scanFrom .outside words (items.flatMap (fun item => ',' :: item.1) ++ ']' :: rest) =
      scanFrom .outside ((itemTokensAfter (items.map (·.2))).reverse ++ words) (']' :: rest) := by
  -- The comma or the bracket behind an item is what ends a name or a number in it.
  induction items generalizing words with
  | nil => rfl
  | cons item items ih =>
    obtain ⟨hitem, hitems⟩ := List.forall_mem_cons.mp h
    simp only [List.flatMap_cons, List.map_cons, itemTokensAfter, List.cons_append,
      List.append_assoc]
    rw [scanFrom_punctuation (c := ',') rfl, hitem _ _ (pauses_after _ items rfl rest), ih hitems]
    simp

theorem scans_list {blanks : List Char} (hblanks : ∀ c ∈ blanks, isGap c = true) :
    Scans ('[' :: (blanks ++ ([','].intercalate (items.map (·.1)) ++ [']'])))
      (.list (items.map (·.2))) := by
  intro words rest _
  simp only [List.cons_append, List.append_assoc]
  rw [scanFrom_punctuation (c := '[') rfl, scanFrom_blanks hblanks]
  rcases items with _ | ⟨item, items⟩
  · exact scanFrom_punctuation rfl _ rest
  · obtain ⟨hitem, hitems⟩ := List.forall_mem_cons.mp h
    rw [intercalate_cons, List.append_assoc, List.nil_append]
    rw [hitem _ _ (pauses_after _ items rfl rest), scanFrom_itemsAfter hitems,
      scanFrom_punctuation (c := ']') rfl]
    simp [tokens, itemTokens]

end Lists

section Objects

variable {members : List WrittenMember}
  (hkeys : ∀ member ∈ members, Scans member.keyText (.str member.key))
  (hvalues : ∀ member ∈ members, Scans member.valueText member.value)

/-- A member is scanned into its key, the colon and the words of its value. -/
theorem scanFrom_member {member : WrittenMember}
    (hkey : Scans member.keyText (.str member.key)) (hvalue : Scans member.valueText member.value)
    (words : List Token) {rest : List Char} (hrest : Pauses rest) :
    scanFrom .outside words (member.text ++ rest) =
      scanFrom .outside (member.value.tokens.reverse ++ .colon :: .str member.key :: words)
        rest := by
  rw [WrittenMember.text, List.append_assoc, List.cons_append, hkey _ _ (pauses_cons rfl _),
    scanFrom_punctuation (c := ':') rfl, hvalue _ _ hrest]
  rfl

include hkeys hvalues

theorem scanFrom_membersAfter (words : List Token) (rest : List Char) :
    scanFrom .outside words (members.flatMap (fun member => ',' :: member.text) ++ '\x7d' :: rest) =
      scanFrom .outside
        ((memberTokensAfter (members.map fun m => (m.key, m.value))).reverse ++ words)
        ('\x7d' :: rest) := by
  induction members generalizing words with
  | nil => rfl
  | cons member members ih =>
    obtain ⟨hkey, hkeys⟩ := List.forall_mem_cons.mp hkeys
    obtain ⟨hvalue, hvalues⟩ := List.forall_mem_cons.mp hvalues
    simp only [List.flatMap_cons, List.map_cons, memberTokensAfter, List.cons_append,
      List.append_assoc]
    rw [scanFrom_punctuation (c := ',') rfl,
      scanFrom_member hkey hvalue _ (pauses_after _ members rfl rest), ih hkeys hvalues]
    simp

theorem scans_object {blanks : List Char} (hblanks : ∀ c ∈ blanks, isGap c = true) :
    Scans ('\x7b' :: (blanks ++ ([','].intercalate (members.map (·.text)) ++ ['\x7d'])))
      (.object (members.map fun m => (m.key, m.value))) := by
  intro words rest _
  simp only [List.cons_append, List.append_assoc]
  rw [scanFrom_punctuation (c := '\x7b') rfl, scanFrom_blanks hblanks]
  rcases members with _ | ⟨member, members⟩
  · exact scanFrom_punctuation rfl _ rest
  · obtain ⟨hkey, hkeys⟩ := List.forall_mem_cons.mp hkeys
    obtain ⟨hvalue, hvalues⟩ := List.forall_mem_cons.mp hvalues
    rw [intercalate_cons, List.append_assoc, List.nil_append]
    rw [scanFrom_member hkey hvalue _ (pauses_after _ members rfl rest),
      scanFrom_membersAfter hkeys hvalues, scanFrom_punctuation (c := '\x7d') rfl]
    simp [tokens, memberTokens]

end Objects

/-- What is written for a value is scanned into its words. -/
theorem Writes.scans {cs : List Char} {value : Json} (h : Writes cs value) : Scans cs value := by
  induction h with
  | blankBefore hc _ ih => exact scans_blankBefore hc ih
  | blankAfter hc _ ih => exact scans_blankAfter hc ih
  | null => exact scans_plain (by decide) (List.all_eq_true.mp rfl) rfl rfl
  | true => exact scans_plain (by decide) (List.all_eq_true.mp rfl) rfl rfl
  | false => exact scans_plain (by decide) (List.all_eq_true.mp rfl) rfl rfl
  | number h =>
    have hne : ∀ {cs : List Char} {value : Json}, WritesNumber cs value → cs ≠ [] := by
      rintro cs value h rfl
      obtain ⟨c, rest, hcs, _⟩ := h.exists_cons
      cases hcs
    refine scans_plain (hne h) h.isPlainChar h.plain? ?_
    cases h <;> rfl
  | str h hvalue =>
    intro words rest _
    simp only [List.cons_append, List.append_assoc, List.nil_append]
    exact scanFrom_string h hvalue words rest
  | list hblanks _ ih => exact scans_list ih hblanks
  | object hblanks _ _ ihkeys ihvalues => exact scans_object ihkeys ihvalues hblanks

/-! ## The law -/

/-- Every text of the grammar is read, as the value it is written for. -/
theorem parse?_of_writes {text : String} {value : Json} (h : Writes text.toList value) :
    parse? text = some value := by
  have hscan : scan text.toList = some value.tokens := by
    have hall := h.scans [] [] (fun c hc => by cases hc)
    rw [List.append_nil, List.append_nil] at hall
    rw [scan, hall]
    simp [scanFrom, Place.finish?]
  have hrun : Reader.run? ⟨.value, []⟩ value.tokens = some ⟨.nothing value, []⟩ := by
    have hall := reads value [] []
    rw [List.append_nil] at hall
    exact hall
  rw [parse?, hscan, Option.bind_some, ofTokens?, hrun]

end VolumeSync.Json
