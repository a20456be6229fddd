import VolumeSync.Proofs.TextRuns
import VolumeSync.Text.Decimal

-- Numbers below a bound, read from digits with a plus sign before them or
-- not. The reader stops at the first character that it cannot go on with, so
-- what it says of a text depends on what comes first: something that is no
-- digit, or the digit that makes the number too large.

namespace VolumeSync

namespace Text

/-! ## Written numbers -/

/-- The text is a number: digits, with a plus sign before them or not. -/
def WritesNat (cs : List Char) (n : Nat) : Prop :=
  ∃ digits, digits ≠ [] ∧ IsDigits digits ∧ (cs = digits ∨ cs = '+' :: digits) ∧
    n = digitsValue digits

/-- The text begins with digits, a plus sign before them or not, that are a
number beyond the bound by themselves. -/
def Overruns (bound : Nat) (cs : List Char) : Prop :=
  ∃ digits rest, IsDigits digits ∧ (cs = digits ++ rest ∨ cs = '+' :: (digits ++ rest)) ∧
    bound ≤ digitsValue digits

/-! ## The reader -/

/-- Of the two reasons one settles the other. -/
theorem NumberError.eq_of_tooLarge_iff {reason reason' : NumberError}
    (h : reason = .tooLarge ↔ reason' = .tooLarge) : reason = reason' := by
  revert h
  cases reason <;> cases reason' <;> decide

theorem digitValue?_of_isDigit {c : Char} (h : c.isDigit = true) :
    digitValue? c = some (digitOffset c) := digitValue?_eq_some_iff.mpr ⟨h, rfl⟩

theorem digitValue?_of_not_isDigit {c : Char} (h : ¬ c.isDigit = true) : digitValue? c = none :=
  if_neg h

theorem readBelowFrom_eq_ok_iff {bound n m : Nat} (hn : n < bound) {cs : List Char} :
    readBelowFrom bound n cs = .ok m ↔ IsDigits cs ∧ m = digitsFrom n cs ∧ m < bound := by
  induction cs generalizing n with
  | nil =>
    rw [readBelowFrom, digitsFrom_nil, Except.ok.injEq]
    constructor
    · rintro rfl
      exact ⟨List.forall_mem_nil _, rfl, hn⟩
    · rintro ⟨_, rfl, _⟩
      rfl
  | cons c cs ih =>
    have hdigits : IsDigits (c :: cs) ↔ c.isDigit = true ∧ IsDigits cs := List.forall_mem_cons
    rw [readBelowFrom, hdigits, digitsFrom_cons]
    by_cases hc : c.isDigit = true
    · rw [digitValue?_of_isDigit hc]
      dsimp only
      split
      · rename_i hlt
        rw [ih hlt]
        simp only [hc, true_and]
      · rename_i hge
        refine iff_of_false (fun h => by cases h) ?_
        rintro ⟨_, rfl, hlt⟩
        have hle := le_digitsFrom (10 * n + digitOffset c) cs
        omega
    · rw [digitValue?_of_not_isDigit hc]
      exact iff_of_false (fun h => by cases h) (fun h => hc h.1.1)

/-- The reader stops at the first digit that leaves the bound, so whatever
comes behind that digit makes no difference. -/
theorem readBelowFrom_eq_tooLarge_iff {bound n : Nat} (hn : n < bound) {cs : List Char} :
    readBelowFrom bound n cs = .error .tooLarge ↔
      ∃ digits rest, IsDigits digits ∧ cs = digits ++ rest ∧ bound ≤ digitsFrom n digits := by
  induction cs generalizing n with
  | nil =>
    refine iff_of_false (fun h => by cases h) ?_
    rintro ⟨digits, rest, _, hcs, hle⟩
    obtain ⟨rfl, _⟩ := List.append_eq_nil_iff.mp hcs.symm
    rw [digitsFrom_nil] at hle
    omega
  | cons c cs ih =>
    rw [readBelowFrom]
    by_cases hc : c.isDigit = true
    · rw [digitValue?_of_isDigit hc]
      dsimp only
      split
      · rename_i hlt
        rw [ih hlt]
        constructor
        · rintro ⟨digits, rest, hdigits, rfl, hle⟩
          refine ⟨c :: digits, rest, List.forall_mem_cons.mpr ⟨hc, hdigits⟩, rfl, ?_⟩
          rwa [digitsFrom_cons]
        · rintro ⟨digits, rest, hdigits, hcs, hle⟩
          rcases digits with _ | ⟨x, digits⟩
          · rw [digitsFrom_nil] at hle
            omega
          · rw [List.cons_append] at hcs
            obtain ⟨rfl, rfl⟩ := List.cons.inj hcs
            rw [digitsFrom_cons] at hle
            exact ⟨digits, rest, (List.forall_mem_cons.mp hdigits).2, rfl, hle⟩
      · rename_i hge
        refine iff_of_true rfl ⟨[c], cs, ?_, rfl, ?_⟩
        · exact List.forall_mem_singleton.mpr hc
        · rw [digitsFrom_cons, digitsFrom_nil]
          omega
    · rw [digitValue?_of_not_isDigit hc]
      refine iff_of_false (fun h => by cases h) ?_
      rintro ⟨digits, rest, hdigits, hcs, hle⟩
      rcases digits with _ | ⟨x, digits⟩
      · rw [digitsFrom_nil] at hle
        omega
      · rw [List.cons_append] at hcs
        obtain ⟨rfl, rfl⟩ := List.cons.inj hcs
        exact hc (List.forall_mem_cons.mp hdigits).1

/-- The text without a plus sign at its start. -/
def withoutPlus : List Char → List Char
  | '+' :: cs => cs
  | cs => cs

theorem withoutPlus_cases (cs : List Char) :
    cs = '+' :: withoutPlus cs ∨ cs = withoutPlus cs ∧ cs.head? ≠ some '+' := by
  unfold withoutPlus
  split
  · exact .inl rfl
  · rename_i hplus
    refine .inr ⟨rfl, fun h => ?_⟩
    obtain ⟨rest, rfl⟩ := List.head?_eq_some_iff.mp h
    exact hplus rest rfl

theorem readBelow_eq (bound : Nat) (cs : List Char) :
    readBelow bound cs =
      if withoutPlus cs = [] then .error .invalidDigit
      else readBelowFrom bound 0 (withoutPlus cs) := by
  unfold readBelow
  split
  · rfl
  · rfl
  · rename_i rest hne
    have hrest : rest ≠ [] := by
      rintro rfl
      exact hne rfl
    exact (if_neg hrest).symm
  · rename_i hnil hone hplus
    have hself : withoutPlus cs = cs := by
      rcases withoutPlus_cases cs with hcs | ⟨hcs, _⟩
      · exact absurd hcs (hplus _)
      · exact hcs.symm
    rw [hself]
    exact (if_neg hnil).symm

/-- Digits begin a text exactly where they begin it behind its plus sign. -/
theorem append_iff_withoutPlus {cs digits : List Char} (hdigits : IsDigits digits)
    (hne : digits ≠ []) (rest : List Char) :
    (cs = digits ++ rest ∨ cs = '+' :: (digits ++ rest)) ↔ withoutPlus cs = digits ++ rest := by
  constructor
  · rintro (rfl | rfl)
    · rcases withoutPlus_cases (digits ++ rest) with hcs | ⟨hcs, _⟩
      · obtain ⟨d, digits, rfl⟩ := List.exists_cons_of_ne_nil hne
        rw [List.cons_append] at hcs
        rw [(List.cons.inj hcs).1] at hdigits
        exact absurd (hdigits '+' List.mem_cons_self) (by decide)
      · exact hcs.symm
    · rfl
  · intro h
    rw [← h]
    exact (withoutPlus_cases cs).symm.imp_left And.left

theorem readBelow_eq_ok_iff {bound : Nat} (hpos : 0 < bound) {cs : List Char} {n : Nat} :
    readBelow bound cs = .ok n ↔ WritesNat cs n ∧ n < bound := by
  rw [readBelow_eq]
  unfold WritesNat
  by_cases hnil : withoutPlus cs = []
  · rw [if_pos hnil]
    refine iff_of_false (fun h => by cases h) ?_
    rintro ⟨⟨digits, hne, hdigits, hcs, _⟩, _⟩
    have hbegins := (append_iff_withoutPlus hdigits hne []).mp (by rwa [List.append_nil])
    rw [hnil, List.append_nil] at hbegins
    exact hne hbegins.symm
  · rw [if_neg hnil, readBelowFrom_eq_ok_iff hpos]
    constructor
    · rintro ⟨hdigits, hn, hlt⟩
      have hcs := (append_iff_withoutPlus hdigits hnil []).mpr (List.append_nil _).symm
      rw [List.append_nil] at hcs
      exact ⟨⟨withoutPlus cs, hnil, hdigits, hcs, hn⟩, hlt⟩
    · rintro ⟨⟨digits, hne, hdigits, hcs, hn⟩, hlt⟩
      have hbegins := (append_iff_withoutPlus hdigits hne []).mp (by rwa [List.append_nil])
      rw [List.append_nil] at hbegins
      rw [hbegins]
      exact ⟨hdigits, hn, hlt⟩

theorem readBelow_eq_tooLarge_iff {bound : Nat} (hpos : 0 < bound) {cs : List Char} :
    readBelow bound cs = .error .tooLarge ↔ Overruns bound cs := by
  have hne : ∀ {digits}, bound ≤ digitsValue digits → digits ≠ [] := by
    rintro _ hle rfl
    exact absurd hpos (Nat.not_lt.mpr hle)
  rw [readBelow_eq]
  unfold Overruns
  by_cases hnil : withoutPlus cs = []
  · rw [if_pos hnil]
    refine iff_of_false (fun h => by cases h) ?_
    rintro ⟨digits, rest, hdigits, hcs, hle⟩
    have hbegins := (append_iff_withoutPlus hdigits (hne hle) rest).mp hcs
    rw [hnil] at hbegins
    exact hne hle (List.append_eq_nil_iff.mp hbegins.symm).1
  · rw [if_neg hnil, readBelowFrom_eq_tooLarge_iff hpos]
    constructor
    · rintro ⟨digits, rest, hdigits, hcs, hle⟩
      exact ⟨digits, rest, hdigits, (append_iff_withoutPlus hdigits (hne hle) rest).mpr hcs, hle⟩
    · rintro ⟨digits, rest, hdigits, hcs, hle⟩
      exact ⟨digits, rest, hdigits, (append_iff_withoutPlus hdigits (hne hle) rest).mp hcs, hle⟩

end Text

end VolumeSync
