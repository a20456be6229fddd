import Mathlib.Data.Rat.Floor
import Mathlib.Tactic.Linarith
import Mathlib.Tactic.Positivity
import VolumeSync.Proofs.QuantityText

-- What a quantity is worth. A written quantity denotes a rational number of
-- bytes, and what is read of it is that number rounded up, provided that the
-- digits, the power of ten, the scaled number and the result each stay in
-- the range that is kept for them. Nothing is lost on the way.

namespace VolumeSync

/-! ## Rounding up -/

/-- Division that cuts the fraction off, and one more if it cut off anything
above zero, is division rounded up. -/
theorem ceilDiv_eq_ceil (a : Int) {b : Int} (hb : 0 < b) : ceilDiv a b = ⌈(a / b : ℚ)⌉ := by
  have hpos : (0 : ℚ) < b := Int.cast_pos.mpr hb
  have hdiv : (b * a.tdiv b + a.tmod b : ℚ) = a := by exact_mod_cast Int.mul_tdiv_add_tmod a b
  have hlow : (-b : ℚ) < a.tmod b := by exact_mod_cast Int.lt_tmod_of_pos a hb
  have hhigh : (a.tmod b : ℚ) < b := by exact_mod_cast Int.tmod_lt_of_pos a hb
  symm
  rw [Int.ceil_eq_iff, lt_div_iff₀ hpos, div_le_iff₀ hpos]
  unfold ceilDiv
  by_cases hrest : 0 < a.tmod b
  · have hrest' : (0 : ℚ) < a.tmod b := Int.cast_pos.mpr hrest
    rw [if_pos hrest]
    push_cast
    constructor
    · linarith
    · linarith
  · have hrest' : (a.tmod b : ℚ) ≤ 0 := by exact_mod_cast Int.not_lt.mp hrest
    rw [if_neg hrest]
    push_cast
    constructor
    · linarith
    · linarith

theorem cast_tenTo (n : Nat) : ((tenTo n : Int) : ℚ) = 10 ^ n := by
  have hten : tenTo n = 10 ^ n := rfl
  rw [hten]
  push_cast
  rfl

/-- Scaling by a power of ten rounds up and does nothing else. -/
theorem scaleTen?_eq_some_iff {n power v : Int} :
    scaleTen? n power = some v ↔ (-38 ≤ power ∧ power ≤ 38) ∧ v = ⌈(n * 10 ^ power : ℚ)⌉ := by
  unfold scaleTen? maxPower
  by_cases hfar : 38 < power.natAbs
  · rw [if_pos hfar]
    simp only [reduceCtorEq, false_iff, not_and]
    omega
  · have hnear : -38 ≤ power ∧ power ≤ 38 := by omega
    have hpos : (0 : Int) < tenTo power.natAbs := by
      have : (0 : ℚ) < (tenTo power.natAbs : Int) := by
        rw [cast_tenTo]
        positivity
      exact_mod_cast this
    rw [if_neg hfar]
    by_cases hsign : 0 ≤ power
    · obtain ⟨k, rfl⟩ := Int.eq_ofNat_of_zero_le hsign
      have hvalue : (n * 10 ^ (k : Int) : ℚ) = (n * tenTo k : Int) := by
        rw [Int.cast_mul, cast_tenTo, zpow_natCast]
      rw [if_pos hsign, hvalue, Int.ceil_intCast, Int.natAbs_natCast, Option.some.injEq]
      exact ⟨fun h => ⟨hnear, h.symm⟩, fun h => h.2.symm⟩
    · have hvalue : (n * 10 ^ power : ℚ) = n / (tenTo power.natAbs : Int) := by
        rw [cast_tenTo, div_eq_mul_inv, ← zpow_natCast, ← zpow_neg]
        congr 2
        omega
      rw [if_neg hsign, hvalue, ceilDiv_eq_ceil n hpos, Option.some.injEq]
      exact ⟨fun h => ⟨hnear, h.symm⟩, fun h => h.2.symm⟩

/-! ## Values -/

/-- Every check on the way has to be passed. -/
theorem Numeral.bytes?_eq_some_iff {n : Numeral} {w : Int64} :
    n.bytes? = some w ↔ n.isWritten = true ∧ FitsIn 128 n.magnitude ∧
      ∃ scale, Scale.ofSuffix? n.suffix = some scale ∧ FitsIn 32 n.fraction.length ∧
        FitsIn 128 (n.mantissa * wordCount scale.binary) ∧
        scaleTen? (n.mantissa * wordCount scale.binary) (scale.decimal - n.fraction.length) =
          some w.toInt := by
  unfold Numeral.bytes? widest
  simp only [Option.bind_eq_bind, Option.bind_eq_some_iff, Option.guard_eq_some', exists_const,
    word64?_eq_some_iff, exists_eq_right']

namespace Quantity

variable (q : Quantity)

/-- All digits read as one number. -/
def magnitude : Nat := Text.digitsValue (q.whole ++ q.decimals)

/-- All digits read as one number, with the sign. -/
def mantissa : Int := q.sign.apply q.magnitude

/-- The power of ten by which the digits are scaled. -/
def power : Int := q.scale.decimal - q.decimals.length

/-- The bytes that the quantity denotes. -/
def value : ℚ := q.mantissa * 2 ^ q.scale.binary * 10 ^ q.power

/-- The digits, their number behind the dot, the power of ten and the number
that is scaled by it are in the ranges that are kept for them. -/
structure InRange : Prop where
  magnitude : q.magnitude ≤ 2 ^ 127 - 1
  decimals : q.decimals.length ≤ 2 ^ 31 - 1
  power : -38 ≤ q.power ∧ q.power ≤ 38
  scaled : -2 ^ 127 ≤ q.mantissa * 2 ^ q.scale.binary ∧ q.mantissa * 2 ^ q.scale.binary < 2 ^ 127

variable {q}

/-- What is read of a quantity is its value, rounded up. -/
theorem bytes?_numeral {w : Int64} :
    q.numeral.bytes? = some w ↔ q.InRange ∧ w.toInt = ⌈q.value⌉ := by
  have hscale : Scale.ofSuffix? q.numeral.suffix = some q.scale :=
    Scale.ofSuffix?_eq_some_iff.mpr q.scaled
  have hcount : (wordCount q.scale.binary : Int) = 2 ^ q.scale.binary :=
    Int.natCast_pow 2 q.scale.binary
  have hvalue : q.value = (q.mantissa * 2 ^ q.scale.binary : Int) * 10 ^ q.power := by
    unfold value
    push_cast
    rfl
  have hmantissa : q.numeral.mantissa = q.mantissa := rfl
  have hmagnitude : q.numeral.magnitude = q.magnitude := rfl
  have hfraction : q.numeral.fraction = q.decimals := rfl
  rw [Numeral.bytes?_eq_some_iff, hmantissa, hmagnitude, hfraction, hscale, hvalue]
  simp only [Option.some.injEq, exists_eq_left', hcount, fitsIn_succ_iff, scaleTen?_eq_some_iff]
  constructor
  · rintro ⟨_, hdigits, hplaces, hscaled, hpower, hw⟩
    exact ⟨⟨by omega, by omega, hpower, hscaled⟩, hw⟩
  · rintro ⟨⟨hdigits, hplaces, hpower, hscaled⟩, hw⟩
    exact ⟨q.isWritten_numeral, by omega, by omega, hscaled, hpower, hw⟩

/-- What is read of a text that is a quantity. -/
theorem bytes_of_standsIn {raw : String} (h : q.StandsIn raw) {w : Int64} :
    bytesOfQuantity? raw = some w ↔ q.InRange ∧ w.toInt = ⌈q.value⌉ := by
  unfold bytesOfQuantity?
  rw [ofChars_of_standsIn h, bytes?_numeral]

/-- Only quantities are read. -/
theorem exists_standsIn_of_bytes {raw : String} {w : Int64} (h : bytesOfQuantity? raw = some w) :
    ∃ q : Quantity, q.StandsIn raw := by
  unfold bytesOfQuantity? at h
  obtain ⟨hwritten, _, scale, hscale, _⟩ := Numeral.bytes?_eq_some_iff.mp h
  obtain ⟨q, hq, _⟩ := exists_standsIn hwritten hscale
  exact ⟨q, hq⟩

end Quantity

/-! ## The law -/

/-- A text is read as a number of bytes exactly if it is a quantity in range
with that number as its value, rounded up; any other text is read as
nothing. -/
theorem a_quantity_is_read_exactly (raw : String) :
    (∀ v : Int, (bytesOfQuantity? raw).map Int64.toInt = some v ↔
      ∃ q : Quantity, q.StandsIn raw ∧ q.InRange ∧ v = ⌈q.value⌉ ∧ -2 ^ 63 ≤ v ∧ v < 2 ^ 63) ∧
    (bytesOfQuantity? raw = none ↔ ¬∃ q : Quantity, q.StandsIn raw ∧ q.InRange ∧
      -2 ^ 63 ≤ ⌈q.value⌉ ∧ ⌈q.value⌉ < 2 ^ 63) := by
  have hread : ∀ v : Int, (bytesOfQuantity? raw).map Int64.toInt = some v ↔
      ∃ q : Quantity, q.StandsIn raw ∧ q.InRange ∧ v = ⌈q.value⌉ ∧ -2 ^ 63 ≤ v ∧ v < 2 ^ 63 := by
    intro v
    rw [Option.map_eq_some_iff]
    constructor
    · rintro ⟨w, hw, rfl⟩
      obtain ⟨q, hq⟩ := Quantity.exists_standsIn_of_bytes hw
      obtain ⟨hrange, hvalue⟩ := (Quantity.bytes_of_standsIn hq).mp hw
      exact ⟨q, hq, hrange, hvalue, Int64.le_toInt w, Int64.toInt_lt w⟩
    · rintro ⟨q, hq, hrange, hvalue, hleast, hmost⟩
      have hfits : FitsIn 64 v := fitsIn_succ_iff.mpr ⟨hleast, hmost⟩
      have hword : (Int64.ofInt v).toInt = v := toInt_ofInt_of_fits hfits
      exact ⟨Int64.ofInt v, (Quantity.bytes_of_standsIn hq).mpr ⟨hrange, hword.trans hvalue⟩, hword⟩
  refine ⟨hread, ?_⟩
  constructor
  · rintro hnone ⟨q, hq, hrange, hfits⟩
    have hsome := (hread ⌈q.value⌉).mpr ⟨q, hq, hrange, rfl, hfits⟩
    rw [hnone] at hsome
    cases hsome
  · intro hno
    rcases hbytes : bytesOfQuantity? raw with _ | w
    · rfl
    · obtain ⟨q, hq, hrange, hvalue, hfits⟩ := (hread w.toInt).mp (by rw [hbytes]; rfl)
      exact absurd ⟨q, hq, hrange, hvalue ▸ hfits⟩ hno

/-- The letter E alone, before another letter and before a digit. -/
example : bytesOfQuantity? "\u3000-1.5E " = some (-1500000000000000000) ∧
    bytesOfQuantity? ".5Ei" = some 576460752303423488 ∧ bytesOfQuantity? "5.E-1" = some 1 ∧
    bytesOfQuantity? "-.5" = some 0 ∧ bytesOfQuantity? "1.2.3" = none := by decide +kernel

end VolumeSync
