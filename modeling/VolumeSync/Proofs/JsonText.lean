import VolumeSync.Json.Reader
import VolumeSync.Json.Writer
import VolumeSync.Proofs.JsonGrammar
import VolumeSync.Proofs.JsonWords

-- Written values read back. What the writer makes of an integer and of a text
-- is of the grammar, and lists and objects are written with the commas, colons
-- and brackets that it asks for, so the reader finds the value again.

namespace VolumeSync.Json

/-! ## Integers -/

theorem digitsValue_toDigits (n : Nat) : Text.digitsValue (Nat.toDigits 10 n) = n := by
  have h := Nat.ofDigitChars_ten_toDigits (n := n)
  rw [Nat.ofDigitChars_eq_foldl] at h
  exact h

theorem isDigit_of_mem_toDigits {n : Nat} {c : Char} (h : c ∈ Nat.toDigits 10 n) :
    c.isDigit = true := Nat.isDigit_of_mem_toDigits (by decide) (by decide) h

/-- Only zero is written with a zero in front. -/
theorem head?_toDigits {n : Nat} (h : 0 < n) : (Nat.toDigits 10 n).head? ≠ some '0' := by
  induction n using Nat.strongRecOn with
  | ind n ih =>
    by_cases hn : n < 10
    · rw [Nat.toDigits_of_lt_base hn]
      intro heq
      have hzero : ∀ m < 10, m.digitChar = '0' → m = 0 := by decide
      have := hzero n hn (Option.some.inj heq)
      omega
    · rw [Nat.toDigits_of_base_le (by decide) (by omega),
        List.head?_append_of_ne_nil _ Nat.toDigits_ne_nil]
      exact ih (n / 10) (by omega) (by omega)

/-- The digits of a number have no zero in front. -/
theorem isWhole_toDigits (n : Nat) : IsWhole (Nat.toDigits 10 n) where
  digits _ := isDigit_of_mem_toDigits
  ne_nil := Nat.toDigits_ne_nil
  zero h := by
    rcases Nat.eq_zero_or_pos n with rfl | hn
    · rfl
    · exact absurd h (head?_toDigits hn)

/-- The digits of an integer, a minus sign before those of a negative one. -/
theorem toList_toString (value : Int) :
    (toString value).toList =
      if 0 ≤ value then Nat.toDigits 10 value.toNat else '-' :: Nat.toDigits 10 (-value).toNat := by
  have h : toString value = value.repr := rfl
  rw [h, Int.repr_eq_if]
  split <;> simp [Nat.repr_eq_ofList_toDigits]

theorem writesNumber_toString (value : Int) :
    WritesNumber (toString value).toList (.int value) := by
  rw [toList_toString]
  split
  · have hint : (Text.digitsValue (Nat.toDigits 10 value.toNat) : Int) = value := by
      rw [digitsValue_toDigits]
      omega
    have hwrites := WritesNumber.int (isWhole_toDigits value.toNat)
    rwa [hint] at hwrites
  · have hint : -(Text.digitsValue (Nat.toDigits 10 (-value).toNat) : Int) = value := by
      rw [digitsValue_toDigits]
      omega
    have hne : Nat.toDigits 10 (-value).toNat ≠ ['0'] := by
      intro h
      exact head?_toDigits (n := (-value).toNat) (by omega) (by rw [h]; rfl)
    have hwrites := WritesNumber.negative (isWhole_toDigits (-value).toNat) hne
    rwa [hint] at hwrites

/-! ## Strings -/

/-- The control characters that are written with their number have the digits
of it. -/
theorem writesUnit_lowerHexDigits {n : Nat} (h : n < 0x20) :
    WritesUnit ['0', '0', Text.lowerHexDigit (n / 16), Text.lowerHexDigit (n % 16)] n :=
  (by decide : ∀ m ∈ List.range 0x20,
    WritesUnit ['0', '0', Text.lowerHexDigit (m / 16), Text.lowerHexDigit (m % 16)] m)
    n (List.mem_range.mpr h)

/-- A written character is a piece that denotes it. -/
theorem exists_piece (c : Char) : ∃ piece, WritesPiece (charInString c) piece ∧
    ∀ {pieces cs}, Denotes pieces cs → Denotes (piece :: pieces) (c :: cs) := by
  -- The characters with a letter of their own come first, as the writer tries them.
  by_cases hletter : c ∈ ['"', '\\', '\x08', '\x0c', '\n', '\r', '\t']
  · refine ⟨.char c, ?_, .char⟩
    simp only [List.mem_cons, List.not_mem_nil, or_false] at hletter
    rcases hletter with rfl | rfl | rfl | rfl | rfl | rfl | rfl <;>
      exact .letter (by decide)
  · simp only [List.mem_cons, List.not_mem_nil, or_false, not_or] at hletter
    obtain ⟨hquote, hback, hb, hf, hn, hr, ht⟩ := hletter
    by_cases hcontrol : c.toNat < 0x20
    · refine ⟨.unit c.toNat, ?_, .unit⟩
      simp only [charInString, hquote, hback, hb, hf, hn, hr, ht, hcontrol, if_true, if_false]
      exact .unit (writesUnit_lowerHexDigits hcontrol)
    · refine ⟨.char c, ?_, .char⟩
      simp only [charInString, hquote, hback, hb, hf, hn, hr, ht, hcontrol, if_false]
      exact .plain (by omega) hquote hback

theorem exists_pieces (cs : List Char) :
    ∃ pieces, WritesPieces (cs.flatMap charInString) pieces ∧ Denotes pieces cs := by
  induction cs with
  | nil => exact ⟨[], .nil, .nil⟩
  | cons c cs ih =>
    obtain ⟨pieces, hpieces, hdenotes⟩ := ih
    obtain ⟨piece, hpiece, hcons⟩ := exists_piece c
    exact ⟨piece :: pieces, .cons hpiece hpieces, hcons hdenotes⟩

/-- One half of a pair alone denotes nothing. -/
theorem not_denotes_half (cs : List Char) : ¬ Denotes [.unit 0xD800] cs := by
  intro h
  cases h.charsOfPieces?

/-- A literal that denotes no text is written so that it denotes none. -/
theorem writes_writtenLiteral (value : Literal) : Writes (writtenLiteral value) (.str value) := by
  rcases value with _ | s
  · have hunit : WritesUnit "d800".toList 0xD800 := by decide
    exact .str (.cons (.unit hunit) .nil) (.nothing not_denotes_half)
  · obtain ⟨pieces, hpieces, hdenotes⟩ := exists_pieces s.toList
    exact .str hpieces (.text hdenotes)

/-! ## Lists and objects -/

theorem writtenItemsAfter_eq_flatMap (items : List Json) :
    writtenItemsAfter items = items.flatMap fun item => ',' :: item.written := by
  induction items with
  | nil => rfl
  | cons item items ih => rw [writtenItemsAfter, ih, List.flatMap_cons, List.cons_append]

theorem written_list (items : List Json) :
    (Json.list items).written = '[' :: ([','].intercalate (items.map written) ++ [']']) := by
  rw [written]
  rcases items with _ | ⟨item, items⟩
  · rfl
  · rw [writtenItems, writtenItemsAfter_eq_flatMap, intercalate_cons]

/-- A member as the writer writes it. -/
def writtenMember (member : Literal × Json) : WrittenMember :=
  ⟨writtenLiteral member.1, member.1, member.2.written, member.2⟩

theorem writtenMembersAfter_eq_flatMap (members : List (Literal × Json)) :
    writtenMembersAfter members =
      members.flatMap fun member => ',' :: (writtenMember member).text := by
  induction members with
  | nil => rfl
  | cons member members ih =>
    rw [writtenMembersAfter, ih, List.flatMap_cons]
    simp [writtenMember, WrittenMember.text]

theorem written_object (members : List (Literal × Json)) :
    (Json.object members).written =
      '\x7b' :: ([','].intercalate (members.map fun m => (writtenMember m).text) ++ ['\x7d']) := by
  rw [written]
  rcases members with _ | ⟨member, members⟩
  · rfl
  · rw [writtenMembers, writtenMembersAfter_eq_flatMap, intercalate_cons]
    simp [writtenMember, WrittenMember.text]

/-! ## Written values -/

/-- The value can be read back. The writer takes a real number as it is
spelled, so only a value without one is sure to. -/
inductive Legible : Json → Prop where
  | null : Legible .null
  | bool (value : Bool) : Legible (.bool value)
  | int (value : Int) : Legible (.int value)
  | str (value : Literal) : Legible (.str value)
  | list {items : List Json} (h : ∀ item ∈ items, Legible item) : Legible (.list items)
  | object {members : List (Literal × Json)} (h : ∀ member ∈ members, Legible member.2) :
      Legible (.object members)

/-- What is written of a value is of the grammar. -/
theorem Legible.writes {value : Json} (h : Legible value) : Writes value.written value := by
  induction h with
  | null => exact .null
  | bool b =>
    cases b with
    | false => exact .false
    | true => exact .true
  | int n => exact .number (writesNumber_toString n)
  | str s => exact writes_writtenLiteral s
  | @list items _ ih =>
    have hitems : ∀ item ∈ items.map fun v => (v.written, v), Writes item.1 item.2 :=
      List.forall_mem_map.mpr ih
    have hwrites := Writes.list (List.forall_mem_nil _) hitems
    rw [List.map_map, List.map_map] at hwrites
    rw [written_list]
    simpa [Function.comp_def] using hwrites
  | @object members _ ih =>
    have hkeys : ∀ member ∈ members.map writtenMember, Writes member.keyText (.str member.key) :=
      List.forall_mem_map.mpr fun member _ => writes_writtenLiteral member.1
    have hvalues : ∀ member ∈ members.map writtenMember, Writes member.valueText member.value :=
      List.forall_mem_map.mpr ih
    have hwrites := Writes.object (List.forall_mem_nil _) hkeys hvalues
    rw [List.map_map, List.map_map] at hwrites
    rw [written_object]
    simpa [Function.comp_def, writtenMember] using hwrites

theorem Legible.writes_render {value : Json} (h : Legible value) :
    Writes value.render.toList value := by
  rw [render, String.toList_ofList]
  exact h.writes

/-- A written value is read as what it was. -/
theorem parse?_render {value : Json} (h : Legible value) : parse? value.render = some value :=
  parse?_of_writes h.writes_render

end VolumeSync.Json
