import VolumeSync.Text.Composite
import VolumeSync.Text.Mark

-- Normalization form C: composites are taken apart, the marks on a base
-- put in the order of their classes, and what can be composed is composed
-- again. Texts that look the same become the same.

namespace VolumeSync.Text

/-! ## Taking apart -/

/-- The characters that a character is composed of, when it is taken apart
at most `depth` times. -/
def apart : Nat → Char → List Char
  | 0, c => [c]
  | depth + 1, c =>
    match compositeParts? c with
    | none => [c]
    | some (base, second) => apart depth base ++ [second]

/-- The characters that a character is composed of. No composite is built
in more than three steps. -/
def decomposed (c : Char) : List Char := if c.toNat < 0x80 then [c] else apart 3 c

/-! ## Order of marks -/

/-- A character with its class. -/
abbrev Classed := Char × Nat

/-- Puts a mark before those marks at the end that are of a higher class;
the list is in reverse. -/
def insertMark (mark : Classed) : List Classed → List Classed
  | [] => [mark]
  | last :: rest =>
    if mark.2 ≠ 0 ∧ mark.2 < last.2 then last :: insertMark mark rest else mark :: last :: rest

/-- The characters with each run of marks in the order of the classes, and
marks of one class as they were. -/
def ordered (cs : List Char) : List Classed :=
  (cs.foldl (fun done c => insertMark (c, combiningClass c) done) []).reverse

/-! ## Composing -/

/-- The middle of composing: what is done, in reverse, the base that may
still take something on, and the marks behind it, in reverse. -/
structure Composing where
  done : List Char
  base : Option Char
  marks : List Classed

namespace Composing

/-- Everything so far, in reverse. -/
def all (s : Composing) : List Char := s.marks.map (·.1) ++ s.base.toList ++ s.done

/-- Nothing stands between the base and a character of this class that
would keep them apart. -/
def isOpen (s : Composing) (cls : Nat) : Bool :=
  match s.marks with
  | [] => true
  | mark :: _ => mark.2 < cls

/-- Takes one more character: the base takes it on if they have a
composite. -/
def take (s : Composing) (c : Classed) : Composing :=
  let composite := if s.isOpen c.2 then s.base.bind (composite? · c.1) else none
  match composite with
  | some base => { s with base := some base }
  | none =>
    if c.2 = 0 then ⟨s.all, some c.1, []⟩
    else if s.base.isNone then { s with done := c.1 :: s.done }
    else { s with marks := c :: s.marks }

end Composing

/-- The characters with all composed that can be. -/
def composed (cs : List Classed) : List Char := (cs.foldl Composing.take ⟨[], none, []⟩).all.reverse

/-! ## The normal form -/

/-- The character is one of ASCII. -/
def isAscii (c : Char) : Bool := c.toNat < 0x80

/-- The text in normalization form C. Texts in ASCII are in it. -/
def normal (cs : List Char) : List Char :=
  if cs.all isAscii then cs else composed (ordered (cs.flatMap decomposed))

end VolumeSync.Text
