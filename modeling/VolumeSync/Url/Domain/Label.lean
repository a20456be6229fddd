import VolumeSync.Text.Direction
import VolumeSync.Text.Joining
import VolumeSync.Url.Domain.Folding
import VolumeSync.Url.Punycode

-- The labels of a domain name: how each is written in ASCII, what it
-- stands for, and what a label may look like to those who read it.

namespace VolumeSync.Url.Domain

/-! ## Labels -/

/-- A label as it is looked up, and the characters that it stands for. -/
structure Label where
  written : List Char
  meaning : List Char
  deriving DecidableEq, Repr

/-- What an encoded label begins with. -/
def acePrefix : List Char := "xn--".toList

/-- The longest label that is encoded. -/
def maxMeaning : Nat := 1000

/-- The longest code that is decoded. -/
def maxCode : Nat := 2000

/-- The label that an encoded label gives. It must be encoded for a reason,
stand for characters that are read as they stand, and have no hyphen at
its end. -/
def Label.ofEncoded? (label : List Char) : Option Label := do
  let code := label.drop acePrefix.length
  guard (label.all Text.isAscii && code.getLast? != some '-' && code.length ≤ maxCode)
  let meaning ← Punycode.decode? code
  guard (meaning.any (!Text.isAscii ·) && meaning.all isFolded && Text.normal meaning == meaning)
  return ⟨label, meaning⟩

/-- The label of characters that have been read. -/
def Label.ofChars? (label : List Char) : Option Label :=
  if acePrefix.isPrefixOf label then Label.ofEncoded? label
  else if label.all Text.isAscii then some ⟨label, label⟩
  else if label.length ≤ maxMeaning then some ⟨acePrefix ++ Punycode.encode label, label⟩
  else none

/-! ## Joiners -/

/-- The invisible character that keeps letters from joining. -/
def nonJoiner : Char := Char.ofNat 0x200C

/-- The invisible character that makes letters join. -/
def joiner : Char := Char.ofNat 0x200D

/-- The first character that letters do not join across. -/
def firstOpaque? (cs : List Char) : Option Char := cs.find? (!Text.Joining.isTransparent ·)

/-- Either joiner may follow a virama, and the one that parts letters may
stand between two that would join. The characters before it are in
reverse. -/
def isJoinerInPlace (before : List Char) (c : Char) (after : List Char) : Bool :=
  match before with
  | [] => false
  | previous :: _ =>
    Text.isVirama previous ||
      (c == nonJoiner && (firstOpaque? before).any Text.Joining.joinsNext
        && (firstOpaque? after).any Text.Joining.joinsBefore)

/-- Every joiner is in its place. -/
def joinersInPlace (before : List Char) : List Char → Bool
  | [] => true
  | c :: after =>
    (!(c == nonJoiner || c == joiner) || isJoinerInPlace before c after)
      && joinersInPlace (c :: before) after

/-! ## Directions -/

open Text (Direction)

/-- The directions of a label written from the left, except of its last
character. -/
def withinLeft : List Direction :=
  [.left, .number, .separator, .commonSeparator, .terminator, .neutral, .boundary, .mark]

/-- The directions of a label written from the right, except of its last
character. -/
def withinRight : List Direction :=
  [.right, .arabic, .arabicNumber, .number, .separator, .commonSeparator, .terminator, .neutral,
    .boundary, .mark]

/-- The rest of a label written from the left, its end first. -/
def goesLeft (last : Direction) (within : List Direction) : Bool :=
  [Direction.left, .number].contains last && within.all withinLeft.contains

/-- The rest of a label written from the right, its end first. It has
numbers of one kind only. -/
def goesRight (last : Direction) (within : List Direction) : Bool :=
  [Direction.right, .arabic, .number, .arabicNumber].contains last
    && within.all withinRight.contains
    && !((last :: within).contains .number && (last :: within).contains .arabicNumber)

/-- The label begins with a letter and goes in the direction of that letter
to its last character, the marks behind that left aside. -/
def goesOneWay (label : List Char) : Bool :=
  match label.map Direction.ofChar with
  | [] => true
  | first :: rest =>
    match rest.reverse.dropWhile (· == .mark) with
    | [] => [Direction.left, .right, .arabic].contains first
    | last :: within =>
      match first with
      | .left => goesLeft last within
      | .right => goesRight last within
      | .arabic => goesRight last within
      | _ => false

/-! ## Form -/

/-- The label begins with a character that can stand alone, and its joiners
are in their places. -/
def Label.isWellFormed (label : Label) : Bool :=
  !label.meaning.head?.any Text.isMark && joinersInPlace [] label.meaning

/-- The label has a character written from the right. -/
def Label.hasRightToLeft (label : Label) : Bool := label.meaning.any Text.isRightToLeft

end VolumeSync.Url.Domain
