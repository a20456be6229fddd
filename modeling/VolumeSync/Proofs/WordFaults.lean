import VolumeSync.Proofs.TextRuns
import VolumeSync.Word

-- Steps that nothing guards. Arithmetic in words of a fixed width and cuts in
-- a text counted in bytes end in a fault where they cannot be taken; a
-- reading made of such steps is safe if it is safe step by step.

namespace VolumeSync

/-! ## Faults -/

/-- What may go wrong in a step that nothing guards. -/
inductive Fault where
  /-- The result is no word. -/
  | overflow
  | zeroDivisor
  /-- A text is cut inside a character, or behind its end. -/
  | brokenCharacter
  deriving DecidableEq, Repr

/-- A reading finds a value, is given up, or runs into a fault. -/
inductive Reading (α : Type) where
  | value (a : α)
  | refused
  | fault (f : Fault)
  deriving DecidableEq

namespace Reading

variable {α β : Type}

/-- A reading that goes on with what another one has found. -/
def bind (r : Reading α) (next : α → Reading β) : Reading β :=
  match r with
  | value a => next a
  | refused => refused
  | fault f => fault f

instance : Monad Reading where
  pure := value
  bind := bind

/-- A step that asks before it is taken gives up where it cannot be. -/
def ofOption : Option α → Reading α
  | some a => value a
  | none => refused

/-- The reading runs into no fault. -/
def Safe (r : Reading α) : Prop := ∀ f, r ≠ fault f

theorem bind_eq_value_iff {r : Reading α} {next : α → Reading β} {b : β} :
    r >>= next = value b ↔ ∃ a, r = value a ∧ next a = value b := by
  change r.bind next = value b ↔ _
  rcases r with a | _ | f
  · simp [bind]
  · simp [bind]
  · simp [bind]

theorem ofOption_eq_value_iff {o : Option α} {a : α} : ofOption o = value a ↔ o = some a := by
  rcases o with _ | a
  · simp [ofOption]
  · simp [ofOption]

theorem safe_value (a : α) : Safe (value a) := by
  rintro f ⟨⟩

theorem safe_ofOption (o : Option α) : Safe (ofOption o) := by
  rcases o with _ | a
  · rintro f ⟨⟩
  · rintro f ⟨⟩

/-- Only what has been found is gone on with. -/
theorem Safe.bind {r : Reading α} {next : α → Reading β} (hr : Safe r)
    (hnext : ∀ a, r = value a → Safe (next a)) : Safe (r >>= next) := by
  change Safe (r.bind next)
  rcases r with a | _ | f
  · exact hnext a rfl
  · rintro f ⟨⟩
  · exact absurd rfl (hr f)

/-- A reading without a fault is settled by the values that it may find. -/
theorem eq_ofOption_of_safe {r : Reading α} {o : Option α} (hr : Safe r)
    (h : ∀ a, r = value a ↔ o = some a) : r = ofOption o := by
  rcases r with a | _ | f
  · rw [(h a).mp rfl]
    rfl
  · rcases o with _ | a
    · rfl
    · cases (h a).mpr rfl
  · exact absurd rfl (hr f)

end Reading

/-! ## Words -/

/-- A signed word of so many bits. -/
@[ext]
structure SignedWord (bits : Nat) where
  val : Int
  fits : FitsIn bits val
  deriving DecidableEq

namespace SignedWord

variable {bits : Nat}

/-- The word of an integer, for a step that asks whether there is one. -/
def checked (n : Int) : Option (SignedWord bits) := if h : FitsIn bits n then some ⟨n, h⟩ else none

/-- The word of an integer, for a step that relies on it. -/
def relied (n : Int) : Reading (SignedWord bits) :=
  if h : FitsIn bits n then .value ⟨n, h⟩ else .fault .overflow

/-- Division, cut toward zero. -/
def div (a b : SignedWord bits) : Reading (SignedWord bits) :=
  if b.val = 0 then .fault .zeroDivisor else relied (a.val.tdiv b.val)

/-- The rest of a division. Where the quotient is no word there is no rest
either. -/
def rem (a b : SignedWord bits) : Reading (SignedWord bits) := do
  let _ ← div a b
  relied (a.val.tmod b.val)

/-- One with so many zeros behind it, in binary. What does not fit into the
word falls out of it; only a shift by the whole word or more is refused. -/
def shiftedOne (shift : Nat) : Option (SignedWord 128) :=
  if shift < 128 then checked (Int.bmod (wordCount shift) (wordCount 128)) else none

theorem checked_eq_some_iff {n : Int} {w : SignedWord bits} : checked n = some w ↔ w.val = n := by
  unfold checked
  constructor
  · intro h
    split at h
    · rw [← Option.some.inj h]
    · cases h
  · rintro rfl
    exact dif_pos w.fits

theorem relied_eq_value_iff {n : Int} {w : SignedWord bits} :
    relied n = .value w ↔ w.val = n := by
  unfold relied
  constructor
  · intro h
    split at h
    · rw [← Reading.value.inj h]
    · cases h
  · rintro rfl
    exact dif_pos w.fits

theorem safe_relied {n : Int} (h : FitsIn bits n) :
    Reading.Safe (relied n : Reading (SignedWord bits)) := by
  unfold relied
  rw [dif_pos h]
  exact Reading.safe_value _

/-- What lies between zero and a word is a word. -/
theorem fits_of_le {n : Int} {w : SignedWord bits} (hn : 0 ≤ n) (h : n ≤ w.val) :
    FitsIn bits n := by
  obtain ⟨_, hmost⟩ := w.fits
  unfold FitsIn at *
  omega

/-- The negative of a word that is not below zero is a word: on that side
there is one more. -/
theorem fits_neg {w : SignedWord bits} (h : 0 ≤ w.val) : FitsIn bits (-w.val) := by
  obtain ⟨_, hmost⟩ := w.fits
  unfold FitsIn at *
  omega

/-- By two or more a word is divided without a fault, and there is room for one
more beside the quotient. -/
theorem fits_tdiv (a : SignedWord bits) {b : Int} (hb : 2 ≤ b) {one : Int}
    (hone : one = 0 ∨ one = 1) (hbits : 4 ≤ wordCount (bits - 1)) :
    FitsIn bits (a.val.tdiv b + one) := by
  obtain ⟨hleast, hmost⟩ := a.fits
  have hquotient : (a.val.tdiv b).natAbs = a.val.natAbs / b.natAbs := Int.natAbs_tdiv a.val b
  have hhalf : a.val.natAbs / b.natAbs ≤ a.val.natAbs / 2 :=
    Nat.div_le_div_left (by omega) (by omega)
  unfold FitsIn at *
  omega

theorem div_eq_value_iff {a b w : SignedWord bits} :
    div a b = .value w ↔ b.val ≠ 0 ∧ w.val = a.val.tdiv b.val := by
  unfold div
  split
  · rename_i hzero
    simp [hzero]
  · rename_i hzero
    simp [hzero, relied_eq_value_iff]

end SignedWord

/-! ## Places in a text -/

namespace Text

/-- The bytes that a text takes. -/
def byteLength (cs : List Char) : Nat := cs.foldr (fun c n => c.utf8Size + n) 0

/-- The characters of a text with the bytes in front of each, of which the
first has so many. -/
def indexed (start : Nat) : List Char → List (Nat × Char)
  | [] => []
  | c :: cs => (start, c) :: indexed (start + c.utf8Size) cs

/-- A text cut behind so many bytes. -/
def cutAtByte (offset : Nat) : List Char → Reading (List Char × List Char)
  | [] => if offset = 0 then .value ([], []) else .fault .brokenCharacter
  | c :: cs =>
    if offset = 0 then .value ([], c :: cs)
    else if c.utf8Size ≤ offset then do
      let (before, after) ← cutAtByte (offset - c.utf8Size) cs
      return (c :: before, after)
    else .fault .brokenCharacter

theorem byteLength_cons (c : Char) (cs : List Char) :
    byteLength (c :: cs) = c.utf8Size + byteLength cs := rfl

/-- A cut between two texts falls between characters. -/
theorem cutAtByte_append (before after : List Char) :
    cutAtByte (byteLength before) (before ++ after) = .value (before, after) := by
  induction before with
  | nil =>
    cases after with
    | nil => rfl
    | cons c after => rfl
  | cons c before ih =>
    have hpos := c.utf8Size_pos
    rw [byteLength_cons, List.cons_append, cutAtByte, if_neg (by omega), if_pos (by omega),
      Nat.add_sub_cancel_left, ih]
    rfl

theorem byteLength_of_isDigits {cs : List Char} (h : IsDigits cs) : byteLength cs = cs.length := by
  induction cs with
  | nil => rfl
  | cons c cs ih =>
    obtain ⟨hc, hcs⟩ := List.forall_mem_cons.mp h
    have hone : c.utf8Size = 1 := by
      simp only [Char.isDigit, Bool.and_eq_true, decide_eq_true_eq] at hc
      rw [Char.utf8Size_eq_one_iff]
      exact UInt32.le_trans hc.2 (by decide)
    rw [byteLength_cons, hone, ih hcs, List.length_cons, Nat.add_comm]

end Text

end VolumeSync
