import Mathlib.Data.List.Basic
import Mathlib.Data.List.TakeWhile
import VolumeSync.Text.Blank

-- Runs of characters: where a run of one kind ends, runs of digits, and runs
-- of blanks. Trimming takes the blanks off at the two ends of a text and
-- nothing else, so a text put between blanks is what trimming leaves.

namespace VolumeSync.Text

/-! ## Where a run ends -/

section Runs

variable {α : Type} {p : α → Bool} {xs ys : List α} (hxs : ∀ x ∈ xs, p x = true)
  (hys : ∀ y ∈ ys.head?, p y = false)

include hxs hys

theorem dropWhile_append_of_stop : (xs ++ ys).dropWhile p = ys := by
  rw [List.dropWhile_append_of_pos hxs]
  rcases ys with _ | ⟨y, ys⟩
  · rfl
  · simp [hys y rfl]

theorem takeWhile_append_of_stop : (xs ++ ys).takeWhile p = xs := by
  rw [List.takeWhile_append_of_pos hxs]
  rcases ys with _ | ⟨y, ys⟩
  · simp
  · simp [hys y rfl]

end Runs

/-! ## Digits -/

/-- All characters are ASCII digits. -/
def IsDigits (cs : List Char) : Prop := ∀ c ∈ cs, c.isDigit = true

instance (cs : List Char) : Decidable (IsDigits cs) := List.decidableBAll _ cs

theorem isDigits_append {xs ys : List Char} :
    IsDigits (xs ++ ys) ↔ IsDigits xs ∧ IsDigits ys := List.forall_mem_append

theorem ne_of_isDigit {c x : Char} (h : c.isDigit = true) (hx : x.isDigit = false) : c ≠ x := by
  rintro rfl
  rw [h] at hx
  cases hx

/-! ## Blanks around a text -/

def AllBlank (cs : List Char) : Prop := ∀ c ∈ cs, isBlank c = true

theorem allBlank_nil : AllBlank [] := List.forall_mem_nil _

def BlankFree (cs : List Char) : Prop := ∀ c ∈ cs, isBlank c = false

instance (cs : List Char) : Decidable (BlankFree cs) := List.decidableBAll _ cs

/-- The text has no blank at either end. -/
def IsTrim (cs : List Char) : Prop :=
  (∀ c ∈ cs.head?, isBlank c = false) ∧ ∀ c ∈ cs.getLast?, isBlank c = false

/-- The blanks around a text are all that is trimmed off. -/
theorem trimChars_append {before cs after : List Char} (hbefore : AllBlank before)
    (hafter : AllBlank after) (hcs : IsTrim cs) (hne : cs ≠ []) :
    trimChars (before ++ (cs ++ after)) = cs := by
  have hstart : trimStart (before ++ (cs ++ after)) = cs ++ after := by
    refine dropWhile_append_of_stop hbefore fun c hc => hcs.1 c ?_
    rwa [List.head?_append_of_ne_nil _ hne] at hc
  unfold trimChars trimEnd
  rw [hstart, List.reverse_append]
  rw [dropWhile_append_of_stop (fun c hc => hafter c (List.mem_reverse.mp hc)),
    List.reverse_reverse]
  intro c hc
  rw [List.head?_reverse] at hc
  exact hcs.2 c hc

/-- Trimming a text takes blanks off at its ends and nothing else. -/
theorem exists_trimChars (cs : List Char) : ∃ before after, AllBlank before ∧ AllBlank after ∧
    cs = before ++ (trimChars cs ++ after) := by
  refine ⟨cs.takeWhile isBlank, ((trimStart cs).reverse.takeWhile isBlank).reverse, ?_, ?_, ?_⟩
  · exact fun c hc => List.mem_takeWhile_imp hc
  · exact fun c hc => List.mem_takeWhile_imp (List.mem_reverse.mp hc)
  · unfold trimChars trimEnd
    rw [← List.reverse_append, List.takeWhile_append_dropWhile, List.reverse_reverse, trimStart,
      List.takeWhile_append_dropWhile]

end VolumeSync.Text
