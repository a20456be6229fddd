-- Properties of characters as tables: closed ranges of code points in
-- ascending order, with what holds of their members where that is more
-- than one thing. A search stops at the first range that does not lie
-- before the code point.

namespace VolumeSync.Text

/-! ## Sets -/

/-- The code point lies in one of the ranges. -/
def inRanges : List (Nat × Nat) → Nat → Bool
  | [], _ => false
  | (first, last) :: ranges, n => if n ≤ last then first ≤ n else inRanges ranges n

/-! ## Values -/

/-- What the table says of the code point. -/
def valueAt? {α : Type} : List (Nat × Nat × α) → Nat → Option α
  | [], _ => none
  | (first, last, value) :: table, n =>
    if n ≤ last then if first ≤ n then some value else none else valueAt? table n

end VolumeSync.Text
