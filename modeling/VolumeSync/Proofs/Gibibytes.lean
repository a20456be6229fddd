import Mathlib.Data.Rat.Floor
import Mathlib.Tactic.Linarith
import Mathlib.Tactic.NormNum
import VolumeSync.PersistentVolume
import VolumeSync.Proofs.QuantityValue
import VolumeSync.Proofs.Traffic

-- Whole gibibytes of a declared quantity. A quantity is rounded twice: up to
-- whole bytes when it is read, and toward zero to gibibytes when the volume is
-- described. What comes of both is said of the exact value here, so that it
-- does not matter how a quantity is written.

namespace VolumeSync

/-! ## The value of a text -/

namespace Quantity

/-- The text stands for this number of bytes. -/
def Denotes (raw : String) (v : ℚ) : Prop := ∃ q : Quantity, q.StandsIn raw ∧ q.value = v

/-- Quantities that are taken apart alike have the same value. -/
theorem value_eq_of_numeral_eq {q q' : Quantity} (h : q.numeral = q'.numeral) :
    q.value = q'.value := by
  obtain ⟨hsign, hwhole, hdecimals, hsuffix⟩ := Numeral.mk.inj h
  have hscale : q.scale = q'.scale := by
    have hread := Scale.ofSuffix?_eq_some_iff.mpr q.scaled
    rw [hsuffix, Scale.ofSuffix?_eq_some_iff.mpr q'.scaled] at hread
    exact (Option.some.inj hread).symm
  have hmantissa : q.mantissa = q'.mantissa := by
    unfold mantissa magnitude Text.Sign.apply
    rw [hsign, hwhole, hdecimals]
  have hpower : q.power = q'.power := by
    unfold power
    rw [hscale, hdecimals]
  unfold value
  rw [hmantissa, hscale, hpower]

/-- A text stands for one number at most. -/
theorem Denotes.unique {raw : String} {v v' : ℚ} (h : Denotes raw v) (h' : Denotes raw v') :
    v = v' := by
  obtain ⟨q, hq, rfl⟩ := h
  obtain ⟨q', hq', rfl⟩ := h'
  refine value_eq_of_numeral_eq ?_
  rw [← ofChars_of_standsIn hq, ← ofChars_of_standsIn hq']

theorem exists_denotes {raw : String} {w : Int64} (h : bytesOfQuantity? raw = some w) :
    ∃ v, Denotes raw v := by
  obtain ⟨q, hq⟩ := exists_standsIn_of_bytes h
  exact ⟨q.value, q, hq, rfl⟩

theorem Denotes.toInt_eq {raw : String} {v : ℚ} (h : Denotes raw v) {w : Int64}
    (hw : bytesOfQuantity? raw = some w) : w.toInt = ⌈v⌉ := by
  obtain ⟨q, hq, rfl⟩ := h
  exact ((bytes_of_standsIn hq).mp hw).2

end Quantity

/-! ## Rounding twice -/

/-- The whole gibibytes that an exact number of bytes is told as. -/
structure CutTo (v : ℚ) (gib : Int) : Prop where
  /-- Below zero both roundings go up. -/
  negative : v < 0 → gib = ⌈v / 2 ^ 30⌉
  /-- Whole bytes are cut to whole gibibytes. -/
  whole : ∀ n : Int, v = n → 0 ≤ v → gib = ⌊v / 2 ^ 30⌋
  /-- So is a fraction of a byte, unless the byte that it is rounded up to is
  the last one of a gibibyte. -/
  below : 0 ≤ v → ¬(2 ^ 30 ∣ ⌈v⌉) → gib = ⌊v / 2 ^ 30⌋
  full : 0 ≤ v → (∀ n : Int, v ≠ n) → 2 ^ 30 ∣ ⌈v⌉ → gib = ⌊v / 2 ^ 30⌋ + 1

theorem tdiv_ceil_of_nonpos {v : ℚ} (h : v ≤ 0) (n : ℕ) : ⌈v⌉.tdiv n = ⌈v / n⌉ := by
  have hfloor : 0 ≤ ⌊-v⌋ := Int.floor_nonneg.mpr (neg_nonneg.mpr h)
  calc ⌈v⌉.tdiv n = -(⌊-v⌋.tdiv n) := by rw [← Int.neg_tdiv, Int.floor_neg, neg_neg]
    _ = -(⌊-v⌋ / n) := by rw [Int.tdiv_eq_ediv_of_nonneg hfloor]
    _ = -⌊-v / n⌋ := by rw [Int.floor_div_natCast]
    _ = ⌈v / n⌉ := by rw [neg_div, Int.floor_neg, neg_neg]

theorem floor_div_gibibyte (v : ℚ) : ⌊v / 2 ^ 30⌋ = ⌊v⌋ / 2 ^ 30 := by
  have h := Int.floor_div_natCast v (2 ^ 30)
  push_cast at h
  exact h

theorem ceil_eq_floor_add_one {v : ℚ} (h : ∀ n : Int, v ≠ n) : ⌈v⌉ = ⌊v⌋ + 1 := by
  rw [Int.ceil_eq_floor_add_one_iff_notMem]
  rintro ⟨n, hn⟩
  exact h n hn.symm

/-- Rounding up to bytes and then toward zero to gibibytes. -/
theorem cutTo_tdiv (v : ℚ) : CutTo v (⌈v⌉.tdiv (2 ^ 30)) := by
  have hdiv : 0 ≤ v → ⌈v⌉.tdiv (2 ^ 30) = ⌈v⌉ / 2 ^ 30 := fun h =>
    Int.tdiv_eq_ediv_of_nonneg (Int.ceil_nonneg h)
  refine ⟨?_, ?_, ?_, ?_⟩
  · intro h
    have hceil := tdiv_ceil_of_nonpos h.le (2 ^ 30)
    push_cast at hceil
    exact hceil
  · rintro n rfl h
    rw [hdiv h, floor_div_gibibyte, Int.ceil_intCast, Int.floor_intCast]
  · intro h hnot
    rw [hdiv h, floor_div_gibibyte]
    by_cases hwhole : ∃ n : Int, v = n
    · obtain ⟨n, rfl⟩ := hwhole
      rw [Int.ceil_intCast, Int.floor_intCast]
    · have hceil := ceil_eq_floor_add_one (not_exists.mp hwhole)
      omega
  · intro h hfraction hfull
    have hceil := ceil_eq_floor_add_one hfraction
    rw [hdiv h, floor_div_gibibyte]
    omega

theorem toInt_wholeGibibytes_eq (bytes : Int64) :
    (wholeGibibytes bytes).toInt = bytes.toInt.tdiv (2 ^ 30) := by
  have hgib : gibibyte.toInt = 2 ^ 30 := rfl
  rw [toInt_wholeGibibytes, hgib]

theorem wholeGibibytes_mono {a b : Int64} (h : a.toInt ≤ b.toInt) :
    (wholeGibibytes a).toInt ≤ (wholeGibibytes b).toInt := by
  rw [toInt_wholeGibibytes_eq, toInt_wholeGibibytes_eq]
  exact Int.tdiv_le_tdiv (by decide) h

/-- The capacity that the provider is told is the declared one. -/
theorem PersistentVolume.capacity_describe (site : Site) {pv : PersistentVolume} {raw : String}
    {w : Int64} (hraw : pv.storage = some raw) (hw : bytesOfQuantity? raw = some w)
    (hexists : (site.describe pv.snapshot).isTombstone = false) :
    (site.describe pv.snapshot).capacity = some (wholeGibibytes w) := by
  have hphase : pv.snapshot.phase ≠ .released := by
    intro hr
    rw [(site.isTombstone_describe _).mpr hr] at hexists
    cases hexists
  have hbytes : pv.snapshot.bytes = w := by
    unfold Snapshot.bytes snapshot capacityBytes?
    simp only
    rw [hraw, Option.bind_some, hw, Option.getD_some]
  rw [(site.describe_of_not_released hphase).2.1, hbytes]

/-! ## The law -/

/-- A text that is read as a number of bytes stands for one exact value, and
the gibibytes that the volume is told with are that value cut toward zero,
except that a fraction of a byte that fills a gibibyte counts as one. A larger
value never gives less, however the two are written. -/
theorem gibibytes_are_cut_from_the_exact_value :
    (∀ (raw : String) (w : Int64), bytesOfQuantity? raw = some w →
      ∃ v : ℚ, (∀ v', Quantity.Denotes raw v' ↔ v' = v) ∧ CutTo v (wholeGibibytes w).toInt ∧
        ∀ (site : Site) (pv : PersistentVolume), pv.storage = some raw →
          (site.describe pv.snapshot).isTombstone = false →
          (site.describe pv.snapshot).capacity = some (wholeGibibytes w)) ∧
    ∀ (raw raw' : String) (w w' : Int64) (v v' : ℚ), bytesOfQuantity? raw = some w →
      bytesOfQuantity? raw' = some w' → Quantity.Denotes raw v → Quantity.Denotes raw' v' →
      v ≤ v' → (wholeGibibytes w).toInt ≤ (wholeGibibytes w').toInt := by
  constructor
  · intro raw w hw
    obtain ⟨v, hv⟩ := Quantity.exists_denotes hw
    refine ⟨v, fun v' => ⟨fun h => h.unique hv, fun h => h ▸ hv⟩, ?_, ?_⟩
    · rw [toInt_wholeGibibytes_eq, hv.toInt_eq hw]
      exact cutTo_tdiv v
    · intro site pv hraw hexists
      exact PersistentVolume.capacity_describe site hraw hw hexists
  · intro raw raw' w w' v v' hw hw' hv hv' hle
    refine wholeGibibytes_mono ?_
    rw [hv.toInt_eq hw, hv'.toInt_eq hw']
    exact Int.ceil_le_ceil hle

/-- Half a byte less than a gibibyte, and a volume that declares it. It is no
less than a gibibyte that is written out. -/
theorem half_a_byte_fills_a_gibibyte :
    let pv : PersistentVolume :=
      ⟨some "v", none, none, none, some "Bound", some "1073741823.5", none, none, none, none⟩
    let gib := wholeGibibytes 1073741824
    bytesOfQuantity? "1073741823.5" = some 1073741824 ∧
    gib.toInt = ⌊(2147483647 / 2 : ℚ) / 2 ^ 30⌋ + 1 ∧
    (∀ site : Site, (site.describe pv.snapshot).capacity = some gib) ∧
    ∃ v v', Quantity.Denotes "1073741823.5" v ∧ Quantity.Denotes "1.073741824G" v' ∧ v ≤ v' ∧
      gib.toInt ≤ (wholeGibibytes 1073741824).toInt := by
  intro pv gib
  have hread : bytesOfQuantity? "1073741823.5" = some 1073741824 := by decide +kernel
  have hread' : bytesOfQuantity? "1.073741824G" = some 1073741824 := by decide +kernel
  let q : Quantity :=
    { sign := .unsaid, whole := "1073741823".toList, fraction := some ['5'], suffix := [],
      scale := ⟨0, 0⟩, isDigits := by decide, ne_nil := by decide, scaled := .plain }
  let q' : Quantity :=
    { sign := .unsaid, whole := ['1'], fraction := some "073741824".toList, suffix := ['G'],
      scale := ⟨0, 9⟩, isDigits := by decide, ne_nil := by decide,
      scaled := Scale.ofSuffix?_eq_some_iff.mp rfl }
  have hdigits : q.mantissa = 10737418235 := by decide +kernel
  have hdigits' : q'.mantissa = 1073741824 := by decide +kernel
  have hvalue : q.value = 2147483647 / 2 := by
    have hpower : q.power = -1 := rfl
    have hbinary : q.scale.binary = 0 := rfl
    unfold Quantity.value
    rw [hdigits, hpower, hbinary]
    norm_num
  have hvalue' : q'.value = 1073741824 := by
    have hpower : q'.power = 0 := rfl
    have hbinary : q'.scale.binary = 0 := rfl
    unfold Quantity.value
    rw [hdigits', hpower, hbinary]
    norm_num
  have hq : Quantity.Denotes "1073741823.5" (2147483647 / 2) :=
    ⟨q, ⟨[], [], Text.allBlank_nil, Text.allBlank_nil, rfl⟩, hvalue⟩
  have hq' : Quantity.Denotes "1.073741824G" 1073741824 :=
    ⟨q', ⟨[], [], Text.allBlank_nil, Text.allBlank_nil, rfl⟩, hvalue'⟩
  obtain ⟨hcut, hmono⟩ := gibibytes_are_cut_from_the_exact_value
  obtain ⟨v, hv, hgib, hsite⟩ := hcut _ _ hread
  obtain rfl := (hv _).mp hq
  have hle : (2147483647 / 2 : ℚ) ≤ 1073741824 := by norm_num
  refine ⟨hread, ?_, fun site => hsite site pv rfl ?_, _, _, hq, hq', hle,
    hmono _ _ _ _ _ _ hread hread' hq hq' hle⟩
  · refine hgib.full (by norm_num) (fun n hn => ?_) ?_
    · have hint : (2147483647 : ℚ) = (2 * n : Int) := by
        push_cast
        linarith
      have : (2147483647 : Int) = 2 * n := by exact_mod_cast hint
      omega
    · have hceil : ⌈(2147483647 / 2 : ℚ)⌉ = 1073741824 := by
        rw [Int.ceil_eq_iff]
        norm_num
      rw [hceil]
      decide
  · have hphase : pv.snapshot.phase ≠ .released := by decide
    exact Bool.eq_false_iff.mpr (mt (site.isTombstone_describe _).mp hphase)

/-- A value just below a gibibyte, and one below zero. -/
example : (bytesOfQuantity? "17.179869183G").map wholeGibibytes = some 15 ∧
    (bytesOfQuantity? "-1.5Gi").map wholeGibibytes = some (-1) := by decide +kernel

end VolumeSync
