import Mathlib.Data.List.Basic
import VolumeSync.Proofs.Gibibytes
import VolumeSync.Proofs.WordFaults

-- Quantities read in words of a fixed width. Some steps of the reading ask
-- whether their result is a word and give up if it is not; the others rely on
-- it, and rely as well on divisors that are not zero and on cuts that fall
-- between characters. No text leads to a fault in one of those: what is read
-- is what is read over the integers.

namespace VolumeSync

/-! ## The reading -/

namespace Numeral

/-- The character neither goes on with the number nor is a sign at the very
start. -/
def endsNumber (place : Nat × Char) : Bool :=
  !(isNumberChar place.2 || (place.1 == 0 && (place.2 == '+' || place.2 == '-')))

/-- The bytes of the number that a text begins with. -/
def numberEnd (cs : List Char) : Nat :=
  (((Text.indexed 0 cs).find? endsNumber).map (·.1)).getD (Text.byteLength cs)

/-- Takes a text apart by counting bytes. -/
def takeApart (cs : List Char) : Reading Numeral := do
  let (number, suffix) ← Text.cutAtByte (numberEnd cs) cs
  let signed := Text.Sign.cut number
  return {
    negative := signed.1.isMinus
    whole := signed.2.takeWhile (· != '.')
    fraction := (signed.2.dropWhile (· != '.')).drop 1
    suffix }

/-- Reads on with a number before the digits. -/
def accumulate (n : SignedWord 128) : List Char → Option (SignedWord 128)
  | [] => some n
  | c :: cs => do
    let digit ← Text.digitValue? c
    let tens : SignedWord 128 ← SignedWord.checked (10 * n.val)
    let next ← SignedWord.checked (tens.val + digit)
    accumulate next cs

/-- The number with the sign before it. -/
def signed (negative : Bool) (n : SignedWord 128) : Reading (SignedWord 128) :=
  if negative then SignedWord.relied (-n.val) else .value n

/-- The factor of a suffix. A power of ten stands behind the first byte. -/
def scale (suffix : List Char) : Reading Scale :=
  match Scale.named.lookup (String.ofList suffix) with
  | some scale => .value scale
  | none =>
    if suffix.head? = some 'e' ∨ suffix.head? = some 'E' then do
      let (_, power) ← Text.cutAtByte 1 suffix
      .ofOption ((exponent? power).map (⟨0, ·⟩))
    else .refused

/-- The word times a power of ten. -/
def timesTen (n : SignedWord 128) : Nat → Option (SignedWord 128)
  | 0 => some n
  | power + 1 => do
    let next ← SignedWord.checked (10 * n.val)
    timesTen next power

/-- The quotient, and one more if there is a rest above zero. -/
def roundedUp (n divisor : SignedWord 128) : Reading (SignedWord 128) := do
  let quotient ← SignedWord.div n divisor
  let rest ← SignedWord.rem n divisor
  SignedWord.relied (quotient.val + if 0 < rest.val then 1 else 0)

/-- The number scaled by a power of ten, rounded up. -/
def scaled (n : SignedWord 128) (power : SignedWord 32) : Reading (SignedWord 128) := do
  let ten ← .ofOption (timesTen ⟨1, by decide⟩ power.val.natAbs)
  if 0 ≤ power.val then .ofOption (SignedWord.checked (n.val * ten.val)) else roundedUp n ten

/-- The whole bytes of the numeral. -/
def bytes (n : Numeral) : Reading Int64 := do
  let _ ← .ofOption (guard ¬(n.whole = [] ∧ n.fraction = []))
  let magnitude ← .ofOption (accumulate ⟨0, by decide⟩ (n.whole ++ n.fraction))
  let mantissa ← signed n.negative magnitude
  let scale ← scale n.suffix
  let places : SignedWord 32 ← .ofOption (SignedWord.checked (Text.byteLength n.fraction))
  let power ← .ofOption (SignedWord.checked (scale.decimal - places.val))
  let factor ← .ofOption (SignedWord.shiftedOne scale.binary)
  let whole ← .ofOption (SignedWord.checked (mantissa.val * factor.val))
  let result ← scaled whole power
  .ofOption (word64? result.val)

/-! ## Texts are cut between characters -/

theorem find?_indexed (cs : List Char) {start : Nat} (h : 0 < start) :
    (((Text.indexed start cs).find? endsNumber).map (·.1)).getD (start + Text.byteLength cs) =
      start + Text.byteLength (cs.takeWhile isNumberChar) := by
  induction cs generalizing start with
  | nil => rfl
  | cons c cs ih =>
    have hends : endsNumber (start, c) = !isNumberChar c := by
      simp [endsNumber, Nat.ne_of_gt h]
    rw [Text.indexed, List.find?_cons, hends, List.takeWhile_cons]
    by_cases hc : isNumberChar c = true
    · rw [hc]
      have hrest := @ih (start + c.utf8Size) (by omega)
      simp only [Bool.not_true, Text.byteLength_cons, ↓reduceIte]
      rw [← Nat.add_assoc, hrest, Nat.add_assoc]
    · simp [hc, Text.byteLength]

theorem numberEnd_cons (c : Char) (cs : List Char) :
    numberEnd (c :: cs) = if endsNumber (0, c) then 0
      else Text.byteLength (c :: cs.takeWhile isNumberChar) := by
  unfold numberEnd
  rw [Text.indexed, List.find?_cons, Text.byteLength_cons, Text.byteLength_cons]
  by_cases hc : endsNumber (0, c) = true
  · simp [hc]
  · rw [Bool.eq_false_iff.mpr hc, Nat.zero_add]
    exact find?_indexed cs c.utf8Size_pos

/-- The bytes that are counted are those of a sign and of the characters that a
number is made of. -/
theorem numberEnd_eq (cs : List Char) :
    numberEnd cs = Text.byteLength ((Text.Sign.cut cs).1.chars ++
      (Text.Sign.cut cs).2.takeWhile isNumberChar) := by
  unfold Text.Sign.cut
  split
  · exact numberEnd_cons '-' _
  · exact numberEnd_cons '+' _
  · rename_i hminus hplus
    rcases cs with _ | ⟨c, cs⟩
    · rfl
    · have hends : endsNumber (0, c) = !isNumberChar c := by
        obtain ⟨hc, hc'⟩ := Text.Sign.absent_of_ne hminus hplus c rfl
        simp [endsNumber, hc, hc']
      rw [numberEnd_cons, hends]
      by_cases hc : isNumberChar c = true
      · simp [hc, Text.Sign.chars]
      · simp [hc, Text.Sign.chars, Text.byteLength]

/-- Counting bytes takes a text apart in the same way, and cuts no character. -/
theorem takeApart_eq (cs : List Char) : takeApart cs = .value (ofChars cs) := by
  have hparts := Text.Sign.chars_append_cut cs
  have hend := numberEnd_eq cs
  rw [ofChars_eq]
  -- The sign and the text behind it are any from here on.
  generalize (Text.Sign.cut cs).1 = sign at *
  generalize (Text.Sign.cut cs).2 = body at *
  have hcut : Text.cutAtByte (numberEnd cs) cs =
      .value (sign.chars ++ body.takeWhile isNumberChar, body.dropWhile isNumberChar) := by
    have hbetween := Text.cutAtByte_append (sign.chars ++ body.takeWhile isNumberChar)
      (body.dropWhile isNumberChar)
    rwa [List.append_assoc, List.takeWhile_append_dropWhile, hparts, ← hend] at hbetween
  have habsent : Text.Sign.Absent (body.takeWhile isNumberChar) := by
    intro c hc
    rcases (isNumberChar_iff c).mp (List.mem_takeWhile_imp (List.mem_of_mem_head? hc)) with
      hdigit | rfl
    · exact ⟨Text.ne_of_isDigit hdigit rfl, Text.ne_of_isDigit hdigit rfl⟩
    · exact ⟨by decide, by decide⟩
  have hfound : takeApart cs = .value
      { negative := (Text.Sign.cut (sign.chars ++ body.takeWhile isNumberChar)).1.isMinus
        whole := (Text.Sign.cut (sign.chars ++ body.takeWhile isNumberChar)).2.takeWhile (· != '.')
        fraction := ((Text.Sign.cut (sign.chars ++ body.takeWhile isNumberChar)).2.dropWhile
          (· != '.')).drop 1
        suffix := body.dropWhile isNumberChar } := by
    unfold takeApart
    rw [hcut]
    rfl
  rw [hfound, Text.Sign.cut_append habsent]
  rfl

/-! ## Numbers stay words -/

/-- The digits are a word if all of them together are: none that comes before
the last makes more. -/
theorem accumulate_eq_some_iff {n w : SignedWord 128} (hn : 0 ≤ n.val) {cs : List Char} :
    accumulate n cs = some w ↔ Text.IsDigits cs ∧ w.val = Text.digitsFrom n.val.toNat cs := by
  induction cs generalizing n with
  | nil =>
    rw [accumulate, Text.digitsFrom_nil, Int.toNat_of_nonneg hn, Option.some.injEq,
      SignedWord.ext_iff, eq_comm]
    simp [Text.IsDigits]
  | cons c cs ih =>
    have hdigits : Text.IsDigits (c :: cs) ↔ c.isDigit = true ∧ Text.IsDigits cs :=
      List.forall_mem_cons
    rw [accumulate, hdigits, Text.digitsFrom_cons]
    simp only [Option.bind_eq_bind, Option.bind_eq_some_iff, SignedWord.checked_eq_some_iff,
      Text.digitValue?_eq_some_iff]
    constructor
    · rintro ⟨d, ⟨hc, rfl⟩, tens, htens, next, hnext, hrest⟩
      obtain ⟨hcs, hw⟩ := (ih (n := next) (by omega)).mp hrest
      refine ⟨⟨hc, hcs⟩, ?_⟩
      have hnat : next.val.toNat = 10 * n.val.toNat + Text.digitOffset c := by omega
      rw [hw, hnat]
    · rintro ⟨⟨hc, hcs⟩, hw⟩
      have hle := Text.le_digitsFrom (10 * n.val.toNat + Text.digitOffset c) cs
      have htens : FitsIn 128 (10 * n.val) := SignedWord.fits_of_le (w := w) (by omega) (by omega)
      have hnext : FitsIn 128 (10 * n.val + Text.digitOffset c) :=
        SignedWord.fits_of_le (w := w) (by omega) (by omega)
      refine ⟨_, ⟨hc, rfl⟩, ⟨_, htens⟩, rfl, ⟨_, hnext⟩, rfl,
        (ih (by dsimp only; omega)).mpr ⟨hcs, ?_⟩⟩
      have hnat : (10 * n.val + Text.digitOffset c).toNat =
          10 * n.val.toNat + Text.digitOffset c := by omega
      rw [hw, hnat]

theorem tenTo_succ (power : Nat) : tenTo (power + 1) = 10 * tenTo power := Nat.pow_succ'

theorem tenTo_pos (power : Nat) : 0 < tenTo power := Nat.pow_pos (by decide)

theorem two_le_tenTo {power : Nat} (h : power ≠ 0) : 2 ≤ tenTo power := by
  obtain ⟨before, rfl⟩ := Nat.exists_eq_add_one_of_ne_zero h
  have hpos := tenTo_pos before
  rw [tenTo_succ]
  omega

/-- Likewise a power of ten is a word if the whole of it is. -/
theorem timesTen_eq_some_iff {n w : SignedWord 128} (hn : 0 < n.val) {power : Nat} :
    timesTen n power = some w ↔ w.val = n.val * tenTo power := by
  induction power generalizing n with
  | zero =>
    have hone : ((tenTo 0 : Nat) : Int) = 1 := rfl
    rw [timesTen, hone, Int.mul_one, Option.some.injEq, SignedWord.ext_iff, eq_comm]
  | succ power ih =>
    have hvalue : n.val * (tenTo (power + 1) : Nat) = 10 * n.val * (tenTo power : Nat) := by
      rw [tenTo_succ]
      push_cast
      ring
    rw [timesTen, hvalue]
    simp only [Option.bind_eq_bind, Option.bind_eq_some_iff, SignedWord.checked_eq_some_iff]
    constructor
    · rintro ⟨next, hnext, hrest⟩
      rw [← hnext]
      exact (ih (by omega)).mp hrest
    · intro hw
      have hpos : (0 : Int) < tenTo power := Int.ofNat_lt.mpr (tenTo_pos power)
      have hle : 10 * n.val ≤ w.val := by
        rw [hw]
        exact le_mul_of_one_le_right (by omega) hpos
      have hnext : FitsIn 128 (10 * n.val) := SignedWord.fits_of_le (by omega) hle
      exact ⟨⟨_, hnext⟩, rfl, (ih (by dsimp only; omega)).mpr hw⟩

/-- The sign is put on a number that is not below zero. -/
theorem signed_eq_value_iff {negative : Bool} {n w : SignedWord 128} :
    signed negative n = .value w ↔ w.val = if negative then -n.val else n.val := by
  unfold signed
  split
  · exact SignedWord.relied_eq_value_iff
  · rw [Reading.value.injEq, SignedWord.ext_iff, eq_comm]

theorem safe_signed {negative : Bool} {n : SignedWord 128} (hn : 0 ≤ n.val) :
    (signed negative n).Safe := by
  unfold signed
  split
  · exact SignedWord.safe_relied (SignedWord.fits_neg hn)
  · exact Reading.safe_value n

/-- A power of ten is cut off behind an ASCII letter, which is one byte. -/
theorem scale_eq (suffix : List Char) : scale suffix = .ofOption (Scale.ofSuffix? suffix) := by
  have hpower : ∀ (e : Char) (power : List Char), e.utf8Size = 1 →
      Text.cutAtByte 1 (e :: power) = .value ([e], power) := by
    intro e power he
    have hbetween := Text.cutAtByte_append [e] power
    rwa [Text.byteLength_cons, he] at hbetween
  unfold scale Scale.ofSuffix?
  rcases Scale.named.lookup (String.ofList suffix) with _ | found
  · dsimp only
    by_cases hlower : suffix.head? = some 'e'
    · obtain ⟨power, rfl⟩ := List.head?_eq_some_iff.mp hlower
      rw [if_pos (Or.inl hlower), hpower 'e' power (by decide)]
      rfl
    by_cases hupper : suffix.head? = some 'E'
    · obtain ⟨power, rfl⟩ := List.head?_eq_some_iff.mp hupper
      rw [if_pos (Or.inr hupper), hpower 'E' power (by decide)]
      rfl
    · rw [if_neg (not_or.mpr ⟨hlower, hupper⟩)]
      split
      · rename_i hfound
        cases hfound
      · exact absurd rfl hlower
      · exact absurd rfl hupper
      · rfl
  · rfl

theorem shiftedOne_of_writes {suffix : List Char} {scale : Scale} (h : Scale.Writes suffix scale) :
    ∃ w, SignedWord.shiftedOne scale.binary = some w ∧ w.val = wordCount scale.binary := by
  have hbinary : scale.binary ∈ [0, 10, 20, 30, 40, 50, 60] := by
    cases h with
    | plain => decide
    | @binary i letter h =>
      rcases i with _ | _ | _ | _ | _ | _ | i
      · decide
      · decide
      · decide
      · decide
      · decide
      · decide
      · cases h
    | decimal h => exact List.mem_cons_self
    | fraction h => exact List.mem_cons_self
    | power he hn hfits => exact List.mem_cons_self
  have hfits : ∀ shift ∈ [0, 10, 20, 30, 40, 50, 60], shift < 128 ∧
      Int.bmod (wordCount shift) (wordCount 128) = wordCount shift ∧
      FitsIn 128 (wordCount shift) := by decide
  obtain ⟨hlt, hmod, hfit⟩ := hfits _ hbinary
  refine ⟨⟨_, hfit⟩, ?_, rfl⟩
  unfold SignedWord.shiftedOne
  rw [if_pos hlt, hmod]
  exact SignedWord.checked_eq_some_iff.mpr rfl

/-- By two or more a word is divided, rounded up, without a fault. -/
theorem exists_roundedUp (n divisor : SignedWord 128) (h : 2 ≤ divisor.val) :
    ∃ w, roundedUp n divisor = .value w ∧ w.val = ceilDiv n.val divisor.val := by
  have hbits : 4 ≤ wordCount (128 - 1) := by decide
  have hquotient : FitsIn 128 (n.val.tdiv divisor.val) := by
    have hfits := n.fits_tdiv h (.inl rfl) hbits
    rwa [Int.add_zero] at hfits
  have hrest : FitsIn 128 (n.val.tmod divisor.val) := by
    obtain ⟨hleast, hmost⟩ := divisor.fits
    have hlow := Int.lt_tmod_of_pos n.val (show 0 < divisor.val by omega)
    have hhigh := Int.tmod_lt_of_pos n.val (show 0 < divisor.val by omega)
    unfold FitsIn at *
    omega
  have hone : (if 0 < n.val.tmod divisor.val then (1 : Int) else 0) = 0 ∨
      (if 0 < n.val.tmod divisor.val then (1 : Int) else 0) = 1 := by
    split
    · exact .inr rfl
    · exact .inl rfl
  have hdiv : SignedWord.div n divisor = .value ⟨_, hquotient⟩ :=
    SignedWord.div_eq_value_iff.mpr ⟨by omega, rfl⟩
  have hrem : SignedWord.rem n divisor = .value ⟨_, hrest⟩ := by
    unfold SignedWord.rem
    rw [hdiv]
    exact SignedWord.relied_eq_value_iff.mpr rfl
  refine ⟨⟨_, n.fits_tdiv h hone hbits⟩, ?_, rfl⟩
  unfold roundedUp
  rw [hdiv, hrem]
  exact SignedWord.relied_eq_value_iff.mpr rfl

/-- The powers of ten that are words. -/
theorem fitsIn_tenTo_iff (power : Nat) : FitsIn 128 (tenTo power : Nat) ↔ power ≤ maxPower := by
  have hmono : ∀ {a b : Nat}, a ≤ b → tenTo a ≤ tenTo b := fun h =>
    Nat.pow_le_pow_right (by decide) h
  constructor
  · intro h
    by_contra hnot
    have hle := hmono (show 39 ≤ power by unfold maxPower at hnot; omega)
    have hbig : ¬ FitsIn 128 (tenTo 39 : Nat) := by decide
    exact hbig (SignedWord.fits_of_le (w := ⟨_, h⟩) (Int.natCast_nonneg _) (Int.ofNat_le.mpr hle))
  · intro h
    have hfits : FitsIn 128 (tenTo 38 : Nat) := by decide
    exact SignedWord.fits_of_le (w := ⟨_, hfits⟩) (Int.natCast_nonneg _)
      (Int.ofNat_le.mpr (hmono h))

theorem timesTen_one_eq_some_iff {w : SignedWord 128} {power : Nat} :
    timesTen ⟨1, by decide⟩ power = some w ↔ w.val = tenTo power := by
  rw [timesTen_eq_some_iff (by decide), Int.one_mul]

theorem safe_scaled (n : SignedWord 128) (power : SignedWord 32) : (scaled n power).Safe := by
  unfold scaled
  refine (Reading.safe_ofOption _).bind fun ten hten => ?_
  have hvalue := timesTen_one_eq_some_iff.mp (Reading.ofOption_eq_value_iff.mp hten)
  split
  · exact Reading.safe_ofOption _
  · -- The power is below zero, so that the divisor is two at least.
    rename_i hsign
    have htwo : 2 ≤ ten.val := by
      rw [hvalue]
      exact Int.ofNat_le.mpr (two_le_tenTo (by omega))
    obtain ⟨w, hw, _⟩ := exists_roundedUp n ten htwo
    rw [hw]
    exact Reading.safe_value w

/-- In words the number is scaled as over the integers, if the result is a
64-bit word. -/
theorem exists_scaled_iff (n : SignedWord 128) (power : SignedWord 32) {w : Int64} :
    (∃ v, scaled n power = .value v ∧ v.val = w.toInt) ↔
      scaleTen? n.val power.val = some w.toInt := by
  unfold scaleTen?
  by_cases hfar : maxPower < power.val.natAbs
  · rw [if_pos hfar]
    refine iff_of_false ?_ (by simp)
    rintro ⟨v, hv, _⟩
    obtain ⟨ten, hten, _⟩ := Reading.bind_eq_value_iff.mp hv
    have hvalue := timesTen_one_eq_some_iff.mp (Reading.ofOption_eq_value_iff.mp hten)
    have hfits := ten.fits
    rw [hvalue, fitsIn_tenTo_iff] at hfits
    omega
  · have hten := (fitsIn_tenTo_iff power.val.natAbs).mpr (Nat.not_lt.mp hfar)
    have hword : timesTen ⟨1, by decide⟩ power.val.natAbs = some ⟨_, hten⟩ :=
      timesTen_one_eq_some_iff.mpr rfl
    rw [if_neg hfar]
    have hscaled : scaled n power =
        if 0 ≤ power.val then .ofOption (SignedWord.checked (n.val * tenTo power.val.natAbs))
        else roundedUp n ⟨_, hten⟩ := by
      unfold scaled
      rw [hword]
      rfl
    rw [hscaled]
    by_cases hsign : 0 ≤ power.val
    · rw [if_pos hsign, if_pos hsign]
      simp only [Reading.ofOption_eq_value_iff, SignedWord.checked_eq_some_iff, Option.some.injEq]
      constructor
      · rintro ⟨v, hv, hw⟩
        exact hv.symm.trans hw
      · intro hw
        have hfits : FitsIn 128 w.toInt := by
          have hleast := Int64.le_toInt w
          have hmost := Int64.toInt_lt w
          have hcount : (wordCount (128 - 1) : Int) = 2 ^ 127 := rfl
          unfold FitsIn
          rw [hcount]
          omega
        exact ⟨⟨_, hfits⟩, hw.symm, rfl⟩
    · have htwo : 2 ≤ (tenTo power.val.natAbs : Int) :=
        Int.ofNat_le.mpr (two_le_tenTo (by omega))
      obtain ⟨v, hv, hvalue⟩ := exists_roundedUp n ⟨_, hten⟩ htwo
      rw [if_neg hsign, if_neg hsign, hv, Option.some.injEq, ← hvalue]
      constructor
      · rintro ⟨v', hv', hw⟩
        rwa [Reading.value.inj hv']
      · intro hw
        exact ⟨v, rfl, hw⟩

theorem safe_bytes (n : Numeral) : n.bytes.Safe := by
  unfold bytes
  refine (Reading.safe_ofOption _).bind fun _ _ => ?_
  refine (Reading.safe_ofOption _).bind fun magnitude hmagnitude => ?_
  have hvalue :=
    (accumulate_eq_some_iff (by decide)).mp (Reading.ofOption_eq_value_iff.mp hmagnitude)
  refine (safe_signed (by rw [hvalue.2]; exact Int.natCast_nonneg _)).bind fun mantissa _ => ?_
  rw [scale_eq]
  refine (Reading.safe_ofOption _).bind fun scale _ => ?_
  refine (Reading.safe_ofOption _).bind fun places _ => ?_
  refine (Reading.safe_ofOption _).bind fun power _ => ?_
  refine (Reading.safe_ofOption _).bind fun factor _ => ?_
  refine (Reading.safe_ofOption _).bind fun whole _ => ?_
  exact (safe_scaled whole power).bind fun result _ => Reading.safe_ofOption _

theorem isWritten_iff (n : Numeral) :
    n.isWritten = true ↔ ¬(n.whole = [] ∧ n.fraction = []) ∧ Text.IsDigits n.fraction := by
  unfold isWritten Text.IsDigits
  rw [Bool.and_eq_true, Bool.not_eq_true', ← Bool.not_eq_true, Bool.and_eq_true, List.isEmpty_iff,
    List.isEmpty_iff, List.all_eq_true]

/-- What is found in words is what is found over the integers. -/
theorem bytes_eq_value_iff {n : Numeral} (hwhole : Text.IsDigits n.whole) {w : Int64} :
    n.bytes = .value w ↔ n.bytes? = some w := by
  rw [bytes?_eq_some_iff, isWritten_iff]
  unfold bytes
  rw [scale_eq]
  simp only [Reading.bind_eq_value_iff, Reading.ofOption_eq_value_iff, signed_eq_value_iff,
    SignedWord.checked_eq_some_iff, Option.guard_eq_some', exists_const, word64?_eq_some_iff]
  constructor
  · rintro ⟨hne, magnitude, hmagnitude, mantissa, hmantissa, scale, hscale, places, hplaces, power,
      hpower, factor, hfactor, whole, hproduct, result, hresult, hw⟩
    obtain ⟨hdigits, hvalue⟩ := (accumulate_eq_some_iff (by decide)).mp hmagnitude
    have hfraction := (Text.isDigits_append.mp hdigits).2
    have hmantissa : mantissa.val = n.mantissa := by
      rw [hmantissa, hvalue]
      rfl
    have hlength : places.val = n.fraction.length := by
      rw [hplaces, Text.byteLength_of_isDigits hfraction]
    obtain ⟨factor', hfactor', hcount⟩ :=
      shiftedOne_of_writes (Scale.ofSuffix?_eq_some_iff.mp hscale)
    obtain rfl := Option.some.inj (hfactor.symm.trans hfactor')
    rw [hmantissa, hcount] at hproduct
    rw [hlength] at hpower
    refine ⟨⟨hne, hfraction⟩, ?_, scale, hscale, ?_, ?_, ?_⟩
    · have hfits := magnitude.fits
      rwa [hvalue] at hfits
    · have hfits := places.fits
      rwa [hlength] at hfits
    · have hfits := whole.fits
      rwa [hproduct] at hfits
    · rw [← hproduct, ← hpower]
      exact (exists_scaled_iff whole power).mp ⟨result, hresult, hw.symm⟩
  · rintro ⟨⟨hne, hfraction⟩, hmagnitude, scale, hscale, hlength, hproduct, hresult⟩
    obtain ⟨hnear, _⟩ := scaleTen?_eq_some_iff.mp hresult
    have hpower : FitsIn 32 (scale.decimal - n.fraction.length) := by
      have hcount : (wordCount (32 - 1) : Int) = 2 ^ 31 := rfl
      unfold FitsIn
      rw [hcount]
      omega
    have hmantissa : FitsIn 128 n.mantissa := by
      unfold mantissa
      split
      · exact SignedWord.fits_neg (w := ⟨_, hmagnitude⟩) (Int.natCast_nonneg _)
      · exact hmagnitude
    obtain ⟨factor, hfactor, hcount⟩ := shiftedOne_of_writes (Scale.ofSuffix?_eq_some_iff.mp hscale)
    obtain ⟨result, hscaled, hw⟩ :=
      (exists_scaled_iff ⟨_, hproduct⟩ ⟨_, hpower⟩).mpr hresult
    refine ⟨hne, ⟨_, hmagnitude⟩, ?_, ⟨_, hmantissa⟩, rfl, scale, hscale, ⟨_, hlength⟩, ?_,
      ⟨_, hpower⟩, rfl, factor, hfactor, ⟨_, hproduct⟩, ?_, result, hscaled, hw.symm⟩
    · exact (accumulate_eq_some_iff (by decide)).mpr
        ⟨Text.isDigits_append.mpr ⟨hwhole, hfraction⟩, rfl⟩
    · rw [Text.byteLength_of_isDigits hfraction]
    · rw [hcount]

theorem isDigits_whole_ofChars (cs : List Char) : Text.IsDigits (ofChars cs).whole := by
  rw [ofChars_eq]
  obtain ⟨_, hwhole, _⟩ := exists_point ((Text.Sign.cut cs).2.takeWhile isNumberChar)
    fun c hc => List.mem_takeWhile_imp hc
  exact hwhole

end Numeral

/-! ## The law -/

/-- Reads a quantity in words. -/
def readInWords (raw : String) : Reading Int64 := do
  let n ← Numeral.takeApart (Text.trimChars raw.toList)
  n.bytes

/-- Whole gibibytes in words. -/
def gibibytesInWords (bytes : Int64) : Reading (SignedWord 64) :=
  SignedWord.div ⟨bytes.toInt, Int64.le_toInt bytes, Int64.toInt_lt bytes⟩
    ⟨gibibyte.toInt, by decide⟩

/-- No text makes the reading of a quantity in words run into a fault: nothing
that it relies on without asking leaves the word, no divisor is zero, and no
character is cut. So it finds what is read over the integers, and gives up
where that does. Whole gibibytes are found without a fault as well, and are a
64-bit word for every such word. -/
theorem a_quantity_is_read_without_a_fault (raw : String) :
    (∀ f, readInWords raw ≠ .fault f) ∧ readInWords raw = .ofOption (bytesOfQuantity? raw) ∧
    ∀ bytes : Int64, ∃ gib, gibibytesInWords bytes = .value gib ∧
      gib.val = (wholeGibibytes bytes).toInt ∧ gib.val = bytes.toInt.tdiv (2 ^ 30) ∧
      -2 ^ 63 ≤ gib.val ∧ gib.val < 2 ^ 63 := by
  have hread : readInWords raw = (Numeral.ofChars (Text.trimChars raw.toList)).bytes := by
    unfold readInWords
    rw [Numeral.takeApart_eq]
    rfl
  have hsafe : (readInWords raw).Safe := by
    rw [hread]
    exact Numeral.safe_bytes _
  refine ⟨hsafe, Reading.eq_ofOption_of_safe hsafe fun w => ?_, fun bytes => ?_⟩
  · rw [hread]
    exact Numeral.bytes_eq_value_iff (Numeral.isDigits_whole_ofChars _)
  · have hfits : FitsIn 64 (wholeGibibytes bytes).toInt :=
      ⟨Int64.le_toInt _, Int64.toInt_lt _⟩
    have hgib := toInt_wholeGibibytes_eq bytes
    exact ⟨⟨_, hfits⟩, SignedWord.div_eq_value_iff.mpr ⟨by decide, toInt_wholeGibibytes bytes⟩, rfl,
      hgib, hfits⟩

/-- The steps that ask nothing can fail: the least word has no negative and no
quotient by minus one, and a text can be cut inside a character. -/
example : Numeral.signed true ⟨-2 ^ 127, by decide⟩ = .fault .overflow ∧
    SignedWord.rem (⟨-2 ^ 127, by decide⟩ : SignedWord 128) ⟨-1, by decide⟩ = .fault .overflow ∧
    SignedWord.div (⟨1, by decide⟩ : SignedWord 128) ⟨0, by decide⟩ = .fault .zeroDivisor ∧
    Text.cutAtByte 1 "é5".toList = .fault .brokenCharacter := by decide

end VolumeSync
