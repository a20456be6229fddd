import VolumeSync.Text.Percent
import VolumeSync.Url.Domain

-- The host of a URL: a name, an address of four numbers, or an address
-- of eight. A name whose last label is a number has to be an address.

namespace VolumeSync.Url

/-- A host. The empty name is the host that is there but not said. -/
inductive Host where
  | name (text : List Char)
  | ipv4 (address : Nat)
  | ipv6 (pieces : List Nat)
  deriving DecidableEq, Repr

/-! ## Addresses of four numbers -/

/-- A number of an address: hexadecimal after `0x`, octal after a zero,
else decimal. The bare marks are zero. -/
def ipv4Number? (cs : List Char) : Option Nat :=
  match cs with
  | [] => none
  | ['0'] => some 0
  | '0' :: 'x' :: digits => Text.hexNumber? digits
  | '0' :: 'X' :: digits => Text.hexNumber? digits
  | '0' :: digits =>
    if digits.all fun c => '0' ≤ c ∧ c ≤ '7' then
      some (digits.foldl (fun n c => 8 * n + Text.digitOffset c) 0)
    else none
  | digits => if digits.all Char.isDigit then some (Text.digitsValue digits) else none

/-- The labels of a name, one empty label at the end left out. -/
def labelsOf (name : List Char) : List (List Char) :=
  let labels := name.splitOn '.'
  if 1 < labels.length ∧ labels.getLast? = some [] then labels.dropLast else labels

/-- The last label is a number, whatever its size. -/
def endsInNumber (name : List Char) : Bool :=
  match (labelsOf name).getLast? with
  | some label => (!label.isEmpty && label.all Char.isDigit) || (ipv4Number? label).isSome
  | none => false

/-- The number of values of so many bytes. -/
def bytesCount (bytes : Nat) : Nat := Nat.pow 256 bytes

/-- The address of up to four numbers, of which the last fills all bytes
that are left. -/
def ipv4? (name : List Char) : Option Nat := do
  let numbers ← (labelsOf name).mapM ipv4Number?
  let last ← numbers.getLast?
  let leading := numbers.dropLast
  guard (leading.length < 4 ∧ leading.all (· < 256) ∧ last < bytesCount (4 - leading.length))
  return leading.zipIdx.foldl (fun sum (n, i) => sum + n * bytesCount (3 - i)) last

/-- An address in its usual form. -/
def ipv4Chars (address : Nat) : List Char :=
  ['.'].intercalate ([3, 2, 1, 0].map fun i => (toString (address / bytesCount i % 256)).toList)

/-! ## Addresses of eight numbers -/

/-- One to four hexadecimal digits. -/
def piece? (cs : List Char) : Option Nat :=
  if cs.isEmpty || 4 < cs.length then none else Text.hexNumber? cs

/-- A decimal number below 256 without a zero in front. -/
def octet? (cs : List Char) : Option Nat :=
  if cs.isEmpty || !cs.all Char.isDigit || (1 < cs.length && cs.head? == some '0') then none
  else
    let n := Text.digitsValue cs
    if n < 256 then some n else none

/-- The two pieces of an address of four numbers. -/
def dottedPieces? (cs : List Char) : Option (List Nat) := do
  let [a, b, c, d] ← (cs.splitOn '.').mapM octet? | none
  return [256 * a + b, 256 * c + d]

/-- Pieces with colons between them; the last may be an address of four
numbers if `dotted` allows it. -/
def pieces? (dotted : Bool) (cs : List Char) : Option (List Nat) :=
  if cs.isEmpty then some []
  else do
    let groups := cs.splitOn ':'
    let last ← groups.getLast?
    let leading ← groups.dropLast.mapM piece?
    let final ← if dotted && last.contains '.' then dottedPieces? last
      else (piece? last).map ([·])
    return leading ++ final

/-- The text before and after the first double colon. -/
def cutAtGap? : List Char → Option (List Char × List Char)
  | ':' :: ':' :: rest => some ([], rest)
  | c :: rest => (cutAtGap? rest).map fun (before, after) => (c :: before, after)
  | [] => none

/-- Eight pieces, of which a double colon may stand for one or more that
are zero. -/
def ipv6? (cs : List Char) : Option (List Nat) :=
  match cutAtGap? cs with
  | none => (pieces? true cs).filter fun pieces => pieces.length == 8
  | some (before, after) => do
    let left ← pieces? false before
    let right ← pieces? true after
    guard (left.length + right.length < 8)
    return left ++ List.replicate (8 - left.length - right.length) 0 ++ right

/-- The length of the run of zeros at the start. -/
def zeroRun (pieces : List Nat) : Nat := (pieces.takeWhile (· == 0)).length

/-- Where the first of the longest runs of zeros begins. -/
def longestZeros (pieces : List Nat) : Nat × Nat :=
  (List.range pieces.length).foldl (fun best i =>
    let run := zeroRun (pieces.drop i)
    if best.2 < run then (i, run) else best) (0, 0)

/-- A piece in hexadecimal without zeros in front. -/
def pieceChars (n : Nat) : List Char := Nat.toDigits 16 n

/-- Pieces with colons between them. -/
def piecesChars (pieces : List Nat) : List Char := [':'].intercalate (pieces.map pieceChars)

/-- An address in brackets, the longest run of two zeros or more written
as a double colon. -/
def ipv6Chars (pieces : List Nat) : List Char :=
  let (start, run) := longestZeros pieces
  let inner :=
    if run < 2 then piecesChars pieces
    else piecesChars (pieces.take start) ++ "::".toList ++ piecesChars (pieces.drop (start + run))
  '[' :: (inner ++ [']'])

/-! ## Hosts -/

namespace Host

/-- The host in its usual form. -/
def chars : Host → List Char
  | .name text => text
  | .ipv4 address => ipv4Chars address
  | .ipv6 pieces => ipv6Chars pieces

/-- An address in brackets. -/
def bracketed? (cs : List Char) : Option Host :=
  if cs.getLast? = some ']' then (ipv6? (cs.drop 1).dropLast).map .ipv6 else none

/-- The host of a URL whose scheme is known: percent signs are decoded and
the name is brought into its ASCII form. -/
def ofKnown? (cs : List Char) : Option Host :=
  if cs.head? = some '[' then bracketed? cs
  else do
    let name ← Text.Percent.decode? cs
    let ascii ← Domain.toAscii? name
    guard !ascii.isEmpty
    if endsInNumber ascii then (ipv4? ascii).map .ipv4 else return .name ascii

/-- The characters that no host may hold. -/
def isForbidden (c : Char) : Bool :=
  c.toNat == 0 || "\t\n\r #/:<>?@[\\]^|".toList.contains c

/-- The host of any other URL: taken as it is, controls and characters
beyond ASCII encoded. -/
def ofOther? (cs : List Char) : Option Host :=
  if cs.head? = some '[' then bracketed? cs
  else if cs.any isForbidden then none
  else some (.name (Text.Percent.encode (fun c => 0x20 ≤ c.toNat && c.toNat < 0x7F) cs))

end Host

end VolumeSync.Url
