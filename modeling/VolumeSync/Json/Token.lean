import VolumeSync.Json
import VolumeSync.Text.Hex

-- The words of JSON text: punctuation, strings, numbers and the three
-- names. The text is read one character at a time; between characters
-- the scanner only remembers which word it is in.

namespace VolumeSync.Json

/-- A word of JSON text. A value that has no parts is one word. -/
inductive Token where
  | openList
  | closeList
  | openObject
  | closeObject
  | comma
  | colon
  | str (value : Literal)
  | plain (value : Json)

/-! ## Strings -/

/-- A piece of a written string: a character, or the 16-bit unit of a
numeric escape. -/
inductive Piece where
  | char (c : Char)
  | unit (n : Nat)

/-- The unit is the first half of a surrogate pair. -/
def isHighHalf (n : Nat) : Bool := 0xD800 ≤ n && n ≤ 0xDBFF

/-- The unit is the second half of a surrogate pair. -/
def isLowHalf (n : Nat) : Bool := 0xDC00 ≤ n && n ≤ 0xDFFF

/-- The character of a surrogate pair. -/
def joinHalves (high low : Nat) : Char :=
  Char.ofNat (0x10000 + (high - 0xD800) * 0x400 + (low - 0xDC00))

/-- The characters that the pieces denote. Halves of a pair have to stand
side by side, the high one first. -/
def charsOfPieces? : List Piece → Option (List Char)
  | [] => some []
  | .char c :: rest => (charsOfPieces? rest).map (c :: ·)
  | .unit high :: .unit low :: rest =>
    if isHighHalf high then
      if isLowHalf low then (charsOfPieces? rest).map (joinHalves high low :: ·) else none
    else if isLowHalf high then none
    else (charsOfPieces? (.unit low :: rest)).map (Char.ofNat high :: ·)
  | .unit n :: rest =>
    if isHighHalf n || isLowHalf n then none
    else (charsOfPieces? rest).map (Char.ofNat n :: ·)

/-- What a written string denotes. -/
def literalOf (pieces : List Piece) : Literal := (charsOfPieces? pieces).map String.ofList

/-- The character of an escape that is written with one letter. -/
def escaped? : Char → Option Char
  | '"' => some '"'
  | '\\' => some '\\'
  | '/' => some '/'
  | 'b' => some '\x08'
  | 'f' => some '\x0c'
  | 'n' => some '\n'
  | 'r' => some '\r'
  | 't' => some '\t'
  | _ => none

/-- A character that a string may hold as it is. -/
def isPlainInString (c : Char) : Bool := 0x20 ≤ c.toNat && c != '"' && c != '\\'

/-! ## Names and numbers -/

/-- At least one digit at the start; gives the rest. -/
def skipDigits? (cs : List Char) : Option (List Char) :=
  match cs with
  | c :: rest => if c.isDigit then some (rest.dropWhile Char.isDigit) else none
  | [] => none

/-- The whole part of a number, without a zero in front. -/
def skipWhole? : List Char → Option (List Char)
  | '0' :: rest => some rest
  | cs => skipDigits? cs

/-- The fraction, if there is one. -/
def skipFraction? : List Char → Option (List Char)
  | '.' :: rest => skipDigits? rest
  | cs => some cs

/-- The exponent, if there is one. -/
def skipExponent? : List Char → Option (List Char)
  | e :: '+' :: rest => if e == 'e' || e == 'E' then skipDigits? rest else some (e :: '+' :: rest)
  | e :: '-' :: rest => if e == 'e' || e == 'E' then skipDigits? rest else some (e :: '-' :: rest)
  | e :: rest => if e == 'e' || e == 'E' then skipDigits? rest else some (e :: rest)
  | [] => some []

/-- The value of an integer without a sign: minus zero is none. -/
def integer (negative : Bool) (digits : List Char) : Json :=
  let n := Text.digitsValue digits
  if negative then
    if n = 0 then .real "-0" else .int (-(n : Int))
  else .int n

/-- Reads a number: an optional minus sign, the whole part, and then a
fraction and an exponent that may both be missing. -/
def number? (cs : List Char) : Option Json := do
  let (negative, rest) := match cs with
    | '-' :: rest => (true, rest)
    | rest => (false, rest)
  let afterWhole ← skipWhole? rest
  let afterFraction ← skipFraction? afterWhole
  let afterExponent ← skipExponent? afterFraction
  guard afterExponent.isEmpty
  if afterWhole.isEmpty then return integer negative rest
  else return .real (String.ofList cs)

/-- Reads a run of letters, digits, dots and signs. -/
def plain? (cs : List Char) : Option Json :=
  if cs = "null".toList then some .null
  else if cs = "true".toList then some (.bool true)
  else if cs = "false".toList then some (.bool false)
  else number? cs

/-! ## Scanning -/

/-- The word that the scanner is in, what has been read of it last
first. -/
inductive Place where
  | outside
  | plain (read : List Char)
  | string (read : List Piece)
  | escape (read : List Piece)
  | unit (read : List Piece) (value : Nat) (digits : Nat)

/-- A blank between words. -/
def isGap (c : Char) : Bool := c == ' ' || c == '\n' || c == '\t' || c == '\r'

/-- A character of names and numbers. -/
def isPlainChar (c : Char) : Bool := c.isAlphanum || c == '-' || c == '+' || c == '.'

/-- The word of one character. -/
def punctuation? : Char → Option Token
  | '[' => some .openList
  | ']' => some .closeList
  | '{' => some .openObject
  | '}' => some .closeObject
  | ',' => some .comma
  | ':' => some .colon
  | _ => none

/-- Where a character leads from outside all words, and the word it is. -/
def enter? (c : Char) : Option (Place × List Token) :=
  if isGap c then some (.outside, [])
  else if c = '"' then some (.string [], [])
  else if isPlainChar c then some (.plain [c], [])
  else (punctuation? c).map fun t => (.outside, [t])

/-- Where a character leads, and the words that end with it or before
it. -/
def Place.step? (c : Char) : Place → Option (Place × List Token)
  | .outside => enter? c
  | .plain read =>
    if isPlainChar c then some (.plain (c :: read), [])
    else do
      let value ← plain? read.reverse
      let (next, words) ← enter? c
      return (next, .plain value :: words)
  | .string read =>
    if c = '"' then some (.outside, [.str (literalOf read.reverse)])
    else if c = '\\' then some (.escape read, [])
    else if isPlainInString c then some (.string (.char c :: read), [])
    else none
  | .escape read =>
    if c = 'u' then some (.unit read 0 0, [])
    else (escaped? c).map fun e => (.string (.char e :: read), [])
  | .unit read value digits => do
    let digit ← Text.hexValue? c
    let value := 16 * value + digit
    if digits = 3 then return (.string (.unit value :: read), [])
    else return (.unit read value (digits + 1), [])

/-- The words that end with the text, if it may end here. -/
def Place.finish? : Place → Option (List Token)
  | .outside => some []
  | .plain read => (plain? read.reverse).map fun value => [.plain value]
  | _ => none

/-- Reads on from a place, the words read so far last first. -/
def scanFrom (place : Place) (words : List Token) : List Char → Option (List Token)
  | [] => place.finish?.map fun last => (last.reverse ++ words).reverse
  | c :: cs =>
    match place.step? c with
    | none => none
    | some (next, more) => scanFrom next (more.reverse ++ words) cs

/-- The words of a text. -/
def scan (cs : List Char) : Option (List Token) := scanFrom .outside [] cs

end VolumeSync.Json
