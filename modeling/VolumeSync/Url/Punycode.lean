import VolumeSync.Word

-- Punycode: the code points of a label beyond ASCII, written as the
-- distances between them in ascending order, in digits of base 36 whose
-- weights adapt to the distances seen so far.

namespace VolumeSync.Url.Punycode

/-! ## Digits -/

/-- The letter or digit of a number below 36. -/
def digitChar (d : Nat) : Char :=
  if d < 26 then Char.ofNat ('a'.toNat + d) else Char.ofNat ('0'.toNat + (d - 26))

/-- The number of a letter, in either case, or a digit. -/
def digitValue? (c : Char) : Option Nat :=
  if 'a' ≤ c ∧ c ≤ 'z' then some (c.toNat - 'a'.toNat)
  else if 'A' ≤ c ∧ c ≤ 'Z' then some (c.toNat - 'A'.toNat)
  else if '0' ≤ c ∧ c ≤ '9' then some (c.toNat - '0'.toNat + 26)
  else none

/-- The digit at which a number may end, at a place that is a multiple of
36. -/
def threshold (place bias : Nat) : Nat := min 26 (max 1 (place - bias))

theorem one_le_threshold (place bias : Nat) : 1 ≤ threshold place bias := by
  unfold threshold; omega

theorem threshold_le (place bias : Nat) : threshold place bias ≤ 26 := by
  unfold threshold; omega

/-! ## Bias -/

/-- Divides a distance down, counting the places it takes. -/
def settle (distance place : Nat) : Nat :=
  if 455 < distance then settle (distance / 35) (place + 36)
  else place + 36 * distance / (distance + 38)
termination_by distance

/-- The bias after a distance, when so many code points are in place. -/
def adapt (distance count : Nat) (first : Bool) : Nat :=
  let scaled := if first then distance / 700 else distance / 2
  settle (scaled + scaled / count) 0

/-! ## Encoding -/

/-- A distance in digits, least first. -/
def digits (bias place distance : Nat) : List Char :=
  let t := threshold place bias
  if distance < t then [digitChar distance]
  else
    digitChar (t + (distance - t) % (36 - t)) ::
      digits bias (place + 36) ((distance - t) / (36 - t))
termination_by distance
decreasing_by
  have low := one_le_threshold place bias
  have high := threshold_le place bias
  exact Nat.lt_of_le_of_lt (Nat.div_le_self _ _) (by omega)

/-- What the encoder carries along: the output, the distance since the
last code point, the bias, and how many code points are in place. -/
structure Encoder where
  output : List Char
  distance : Nat
  bias : Nat
  placed : Nat

/-- Passes one character of the label while the code point `point` is
being placed. -/
def Encoder.pass (basic point : Nat) (e : Encoder) (c : Char) : Encoder :=
  if c.toNat < point then { e with distance := e.distance + 1 }
  else if c.toNat = point then
    { output := e.output ++ digits e.bias 36 e.distance
      distance := 0
      bias := adapt e.distance (e.placed + 1) (e.placed == basic)
      placed := e.placed + 1 }
  else e

/-- Places the code points in ascending order; `next` is the least that
may still come. -/
def Encoder.place (label : List Char) (basic : Nat) : List Nat → Nat → Encoder → Encoder
  | [], _, e => e
  | point :: points, next, e =>
    let ready := { e with distance := e.distance + (point - next) * (e.placed + 1) }
    let passed := label.foldl (Encoder.pass basic point) ready
    place label basic points (point + 1) { passed with distance := passed.distance + 1 }

/-- The label in ASCII characters only. -/
def encode (label : List Char) : List Char :=
  let basic := label.filter fun c => c.toNat < 0x80
  let points := ((label.filter fun c => 0x80 ≤ c.toNat).map Char.toNat).mergeSort.eraseDups
  let start : Encoder := ⟨[], 0, 72, basic.length⟩
  basic ++ (if basic.isEmpty then [] else ['-']) ++
    (Encoder.place label basic.length points 0x80 start).output

/-! ## Decoding -/

/-- No number in a code reaches this bound. -/
def bound : Nat := wordCount 32

/-- Reads a distance: what it adds to the sum so far, and the rest. A sum
or a weight beyond the bound is refused. -/
def readDistance? (bias : Nat) : List Char → Nat → Nat → Nat → Option (Nat × List Char)
  | [], _, _, _ => none
  | c :: rest, place, weight, sum =>
    match digitValue? c with
    | none => none
    | some d =>
      let t := threshold place bias
      if bound ≤ sum + d * weight then none
      else if d < t then some (sum + d * weight, rest)
      else if bound ≤ weight * (36 - t) then none
      else readDistance? bias rest (place + 36) (weight * (36 - t)) (sum + d * weight)

theorem length_readDistance? {bias : Nat} {cs : List Char} {place weight sum : Nat}
    {r : Nat × List Char} (h : readDistance? bias cs place weight sum = some r) :
    r.2.length < cs.length := by
  induction cs generalizing place weight sum with
  | nil => simp [readDistance?] at h
  | cons c rest ih =>
    simp only [readDistance?] at h
    split at h
    · cases h
    · split at h
      · cases h
      · split at h
        · cases h; simp
        · split at h
          · cases h
          · have := ih h
            simp only [List.length_cons]
            omega

/-- Puts the code points in one by one. -/
def insertAll? (bias point index : Nat) (label cs : List Char) : Option (List Char) :=
  match cs with
  | [] => some label
  | c :: rest =>
    match _h : readDistance? bias (c :: rest) 36 1 index with
    | none => none
    | some (sum, rest') =>
      let count := label.length + 1
      let point' := point + sum / count
      if point'.isValidChar then
        insertAll? (adapt (sum - index) count (index == 0)) point' (sum % count + 1)
          (label.insertIdx (sum % count) (Char.ofNat point')) rest'
      else none
termination_by cs.length
decreasing_by exact length_readDistance? _h

/-- The label that an encoded label stands for. The last hyphen comes
after the ASCII characters, of which there must then be some. -/
def decode? (cs : List Char) : Option (List Char) :=
  let tail := (cs.reverse.takeWhile (· != '-')).reverse
  let basic := (cs.take (cs.length - tail.length)).dropLast
  if cs.contains '-' && basic.isEmpty then none
  else if basic.all fun c => c.toNat < 0x80 then insertAll? 72 0x80 0 basic tail
  else none

end VolumeSync.Url.Punycode
