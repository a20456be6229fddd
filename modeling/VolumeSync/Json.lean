import VolumeSync.Keyed
import VolumeSync.Word

-- JSON values, and the reading of records, texts, words and maps out of
-- them. A record is strict about the fields it knows and blind to all
-- others.

namespace VolumeSync

/-! ## Values -/

/-- What a written string denotes. A string whose escapes leave half of a
surrogate pair is well formed and denotes no text. -/
abbrev Literal := Option String

/-- A JSON value as it was written: the members of an object in their
order, repeated ones included. Integers are kept apart from the numbers
written with a fraction, an exponent or as minus zero. -/
inductive Json where
  | null
  | bool (value : Bool)
  | int (value : Int)
  | real (written : String)
  | str (value : Literal)
  | list (items : List Json)
  | object (members : List (Literal × Json))
  deriving Inhabited

namespace Json

/-- The value of a text. -/
def ofText (s : String) : Json := .str (some s)

/-- The value of a text or of its absence. -/
def ofText? : Option String → Json
  | none => .null
  | some s => ofText s

/-- The value of a word. -/
def ofWord (n : Int64) : Json := .int n.toInt

/-- The value of a list of texts. -/
def ofTexts (items : List String) : Json := .list (items.map ofText)

/-- An object with the given fields. -/
def record (fields : List (String × Json)) : Json :=
  .object (fields.map fun f => (some f.1, f.2))

/-- The value of a map of texts, its keys in ascending order. -/
def ofMap (m : Keyed String) : Json := record (m.entries.map fun e => (e.1, ofText e.2))

/-! ## Plain values -/

/-- A text. -/
def text? : Json → Option String
  | .str value => value
  | _ => none

/-- An integer that is a signed 64-bit word. -/
def word? : Json → Option Int64
  | .int value => word64? value
  | _ => none

/-- A list of texts. -/
def texts? : Json → Option (List String)
  | .list items => items.mapM text?
  | _ => none

/-- A key and the text under it. -/
def entry? : Literal × Json → Option (String × String)
  | (key, value) => do return (← key, ← value.text?)

/-- A map of texts; of a repeated key the last text counts. -/
def map? : Json → Option (Keyed String)
  | .object members => (members.mapM entry?).map Keyed.ofList
  | _ => none

/-- Nothing for null, else what the reader makes of the value. -/
def nullable? {α : Type} (read : Json → Option α) : Json → Option (Option α)
  | .null => some none
  | value => (read value).map some

/-! ## Records -/

/-- The values under the key, in the order of the members. -/
def valuesOf (key : String) (members : List (Literal × Json)) : List Json :=
  (members.filter fun m => m.1 == some key).map (·.2)

/-- What the members hold for a known field: a field given twice is
refused. -/
def member? (members : List (Literal × Json)) (key : String) : Option (Option Json) :=
  match valuesOf key members with
  | [] => some none
  | [value] => some (some value)
  | _ => none

/-- The values of the known fields, in the order in which they are known.
An object may leave fields out and may hold unknown ones, but every key
has to be a text. A list has to give every field and nothing more. -/
def fields? (known : List String) : Json → Option (List (Option Json))
  | .object members =>
    if members.all (fun m => m.1.isSome) then known.mapM (member? members) else none
  | .list items => if items.length = known.length then some (items.map some) else none
  | _ => none

/-- A field that has to be there. -/
def required? {α : Type} (read : Json → Option α) (field : Option Json) : Option α :=
  field.bind read

/-- A field that may be missing or null. -/
def optional? {α : Type} (read : Json → Option α) : Option Json → Option (Option α)
  | none => some none
  | some value => value.nullable? read

end Json

end VolumeSync
