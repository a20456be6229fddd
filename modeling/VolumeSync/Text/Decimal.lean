-- Decimal digits: the number a run of digits denotes, and the reading of
-- a whole number that has to stay below a bound.

namespace VolumeSync.Text

/-! ## Digits -/

/-- How far the character lies behind the digit 0. -/
def digitOffset (c : Char) : Nat := c.toNat - '0'.toNat

/-- The value of an ASCII digit. -/
def digitValue? (c : Char) : Option Nat :=
  if c.isDigit then some (digitOffset c) else none

/-- The number that a run of digits denotes, most significant digit
first, when the number `n` stands before it. -/
def digitsFrom (n : Nat) (cs : List Char) : Nat :=
  cs.foldl (fun n c => 10 * n + digitOffset c) n

/-- The number that a run of digits denotes; the empty run denotes 0. -/
def digitsValue (cs : List Char) : Nat := digitsFrom 0 cs

@[simp] theorem digitsFrom_nil (n : Nat) : digitsFrom n [] = n := rfl

@[simp] theorem digitsFrom_cons (n : Nat) (c : Char) (cs : List Char) :
    digitsFrom n (c :: cs) = digitsFrom (10 * n + digitOffset c) cs := by
  simp [digitsFrom]

theorem digitValue?_eq_some_iff {c : Char} {d : Nat} :
    digitValue? c = some d ↔ c.isDigit = true ∧ d = digitOffset c := by
  unfold digitValue?
  rw [Option.ite_none_right_eq_some, Option.some.injEq, eq_comm (a := d)]

/-- More digits never make a number smaller. -/
theorem le_digitsFrom (n : Nat) (cs : List Char) : n ≤ digitsFrom n cs := by
  induction cs generalizing n with
  | nil => exact Nat.le_refl n
  | cons c cs ih =>
    rw [digitsFrom_cons]
    exact Nat.le_trans (by omega) (ih _)

/-! ## Whole numbers below a bound -/

/-- Why a text is no whole number below the bound. -/
inductive NumberError where
  | invalidDigit
  | tooLarge
  deriving DecidableEq, Repr

/-- The wording of the two reasons. -/
def NumberError.message : NumberError → String
  | .invalidDigit => "invalid digit found in string"
  | .tooLarge => "number too large to fit in target type"

/-- Reads on with `n` before the digits. The first character that is no
digit, or whose digit leaves the bound, decides what went wrong. -/
def readBelowFrom (bound n : Nat) : List Char → Except NumberError Nat
  | [] => .ok n
  | c :: cs =>
    match digitValue? c with
    | none => .error .invalidDigit
    | some d => if 10 * n + d < bound then readBelowFrom bound (10 * n + d) cs else .error .tooLarge

/-- Reads an optional plus sign and at least one digit as a number below
the bound. -/
def readBelow (bound : Nat) : List Char → Except NumberError Nat
  | [] => .error .invalidDigit
  | ['+'] => .error .invalidDigit
  | '+' :: cs => readBelowFrom bound 0 cs
  | cs => readBelowFrom bound 0 cs

/-- Reads an optional sign and at least one digit as an integer. -/
def readInt? : List Char → Option Int
  | '-' :: cs => magnitude? cs |>.map fun n => -(n : Int)
  | '+' :: cs => magnitude? cs |>.map fun n => (n : Int)
  | cs => magnitude? cs |>.map fun n => (n : Int)
where
  /-- At least one digit and nothing else. -/
  magnitude? (cs : List Char) : Option Nat :=
    if cs ≠ [] ∧ cs.all Char.isDigit then some (digitsValue cs) else none

end VolumeSync.Text
