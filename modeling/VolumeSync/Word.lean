-- Signed words as the ranges that capacities and counts live in. Sums are
-- made over the integers; a result becomes a word only if it fits, never
-- by dropping bits.

namespace VolumeSync

/-- The number of values of a word of so many bits. -/
def wordCount (bits : Nat) : Nat := Nat.pow 2 bits

/-- The integer is a signed word of so many bits. -/
def FitsIn (bits : Nat) (n : Int) : Prop :=
  -(wordCount (bits - 1) : Int) ≤ n ∧ n < (wordCount (bits - 1) : Int)

instance (bits : Nat) (n : Int) : Decidable (FitsIn bits n) :=
  inferInstanceAs (Decidable (_ ∧ _))

/-- The word of an integer that is one. -/
def word64? (n : Int) : Option Int64 := if FitsIn 64 n then some (Int64.ofInt n) else none

theorem toInt_ofInt_of_fits {n : Int} (h : FitsIn 64 n) : (Int64.ofInt n).toInt = n :=
  Int64.toInt_ofInt_of_le h.1 h.2

/-- The word that is read for an integer is that integer. -/
theorem word64?_eq_some_iff {n : Int} {w : Int64} : word64? n = some w ↔ w.toInt = n := by
  unfold word64?
  constructor
  · intro h
    split at h
    · rename_i fits
      rw [← Option.some.inj h, toInt_ofInt_of_fits fits]
    · cases h
  · rintro rfl
    have fits : FitsIn 64 w.toInt := ⟨Int64.le_toInt w, Int64.toInt_lt w⟩
    rw [if_pos fits, Int64.ofInt_toInt]

@[simp] theorem word64?_toInt (w : Int64) : word64? w.toInt = some w :=
  word64?_eq_some_iff.mpr rfl

end VolumeSync
