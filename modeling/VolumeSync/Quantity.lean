import VolumeSync.Text.Blank
import VolumeSync.Text.Decimal
import VolumeSync.Word

-- Quantities of storage as the cluster writes them: a decimal number and
-- a suffix that scales it by a power of two or of ten ("10Gi", "1.5G",
-- "100m", "5e3"). A quantity is read exactly, without floating point;
-- what is left of a byte rounds up.

namespace VolumeSync

/-! ## Suffixes -/

/-- The factor of a suffix: a power of two times a power of ten. -/
structure Scale where
  binary : Nat
  decimal : Int
  deriving DecidableEq, Repr

/-- The suffixes that are written as a word. -/
def Scale.named : List (String × Scale) :=
  [("", ⟨0, 0⟩),
   ("Ki", ⟨10, 0⟩), ("Mi", ⟨20, 0⟩), ("Gi", ⟨30, 0⟩),
   ("Ti", ⟨40, 0⟩), ("Pi", ⟨50, 0⟩), ("Ei", ⟨60, 0⟩),
   ("n", ⟨0, -9⟩), ("u", ⟨0, -6⟩), ("m", ⟨0, -3⟩),
   ("k", ⟨0, 3⟩), ("M", ⟨0, 6⟩), ("G", ⟨0, 9⟩),
   ("T", ⟨0, 12⟩), ("P", ⟨0, 15⟩), ("E", ⟨0, 18⟩)]

/-- A written power of ten is a 32-bit word. -/
def exponent? (cs : List Char) : Option Int :=
  (Text.readInt? cs).filter fun n => FitsIn 32 n

/-- A suffix is one of the words or the letter e, in either case, before
a power of ten. The bare letter E is the word for 10^18. -/
def Scale.ofSuffix? (suffix : List Char) : Option Scale :=
  match named.lookup (String.ofList suffix), suffix with
  | some scale, _ => some scale
  | none, 'e' :: power => (exponent? power).map (⟨0, ·⟩)
  | none, 'E' :: power => (exponent? power).map (⟨0, ·⟩)
  | none, _ => none

/-! ## Numbers -/

/-- The parts of a written quantity. -/
structure Numeral where
  negative : Bool
  whole : List Char
  fraction : List Char
  suffix : List Char
  deriving DecidableEq, Repr

/-- The characters of the unsigned number. -/
def Numeral.isNumberChar (c : Char) : Bool := c.isDigit || c == '.'

/-- Takes a text apart. The sign stands first or nowhere, and the number
goes on while digits and dots do; the first dot ends the whole part. -/
def Numeral.ofChars (cs : List Char) : Numeral :=
  match cs with
  | '-' :: rest => unsigned true rest
  | '+' :: rest => unsigned false rest
  | rest => unsigned false rest
where
  /-- The parts of what follows the sign. -/
  unsigned (negative : Bool) (cs : List Char) : Numeral :=
    let number := cs.takeWhile isNumberChar
    { negative
      whole := number.takeWhile (· != '.')
      fraction := (number.dropWhile (· != '.')).drop 1
      suffix := cs.dropWhile isNumberChar }

/-- There is a digit on one side of the dot, and no second dot. -/
def Numeral.isWritten (n : Numeral) : Bool :=
  !(n.whole.isEmpty && n.fraction.isEmpty) && n.fraction.all Char.isDigit

/-- All digits read as one number, without the sign. -/
def Numeral.magnitude (n : Numeral) : Nat := Text.digitsValue (n.whole ++ n.fraction)

/-- All digits read as one number, the sign in front. -/
def Numeral.mantissa (n : Numeral) : Int :=
  if n.negative then -(n.magnitude : Int) else n.magnitude

/-! ## Values -/

/-- The bits of the widest word that a result in the middle may be. -/
def widest : Nat := 128

/-- The quotient rounded toward plus infinity, for a divisor above zero. -/
def ceilDiv (a b : Int) : Int := a.tdiv b + if 0 < a.tmod b then 1 else 0

/-- The largest power of ten that a 128-bit word holds, either way. -/
def maxPower : Nat := 38

/-- A power of ten. -/
def tenTo (power : Nat) : Nat := Nat.pow 10 power

/-- The number scaled by a power of ten, rounded up. -/
def scaleTen? (n : Int) (power : Int) : Option Int :=
  if maxPower < power.natAbs then none
  else if 0 ≤ power then some (n * tenTo power.natAbs)
  else some (ceilDiv n (tenTo power.natAbs))

/-- The whole bytes of the numeral, if every step stays in range. The sign
is put on last, so the digits alone have to fit. -/
def Numeral.bytes? (n : Numeral) : Option Int64 := do
  guard n.isWritten
  guard (FitsIn widest n.magnitude)
  let scale ← Scale.ofSuffix? n.suffix
  guard (FitsIn 32 n.fraction.length)
  let scaled := n.mantissa * wordCount scale.binary
  guard (FitsIn widest scaled)
  let bytes ← scaleTen? scaled (scale.decimal - n.fraction.length)
  word64? bytes

/-- The whole bytes that a quantity stands for. White space around it is
ignored, a fraction of a byte counts as a byte, and a text that is no
quantity or leaves the 64-bit range stands for nothing. -/
def bytesOfQuantity? (raw : String) : Option Int64 :=
  (Numeral.ofChars (Text.trimChars raw.toList)).bytes?

/-! ## Gibibytes -/

/-- The bytes of a gibibyte. -/
def gibibyte : Int64 := 1073741824

/-- Whole gibibytes, rounded toward zero. -/
def wholeGibibytes (bytes : Int64) : Int64 := bytes / gibibyte

/-- Division of words is division of the integers they are. -/
theorem toInt_wholeGibibytes (bytes : Int64) :
    (wholeGibibytes bytes).toInt = bytes.toInt.tdiv gibibyte.toInt := by
  unfold wholeGibibytes gibibyte
  rw [Int64.toInt_div_of_ne_right _ _ (by decide)]

end VolumeSync
