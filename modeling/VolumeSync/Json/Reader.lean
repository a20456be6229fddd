import VolumeSync.Json.Token

-- JSON values out of words. What is still open is kept as a list of
-- frames, so that a value may nest as deeply as it likes.

namespace VolumeSync.Json

/-! ## Open values -/

/-- A list or an object that is still open, with what it holds so far,
last first. An object may wait for the value of a key. -/
inductive Frame where
  | list (items : List Json)
  | object (members : List (Literal × Json))
  | member (members : List (Literal × Json)) (key : Literal)

/-- What may stand next. -/
inductive Expect where
  /-- A value. -/
  | value
  /-- A value, or the end of the list that has just been opened. -/
  | item
  /-- A key. -/
  | key
  /-- A key, or the end of the object that has just been opened. -/
  | firstKey
  /-- The colon after a key. -/
  | colon
  /-- A comma, or the end of the innermost open value. -/
  | next
  /-- Nothing: the value is complete. -/
  | nothing (value : Json)

/-- What may stand next, and what is open, innermost first. -/
structure Reader where
  expect : Expect
  frames : List Frame

/-- A value has just ended: it belongs to the innermost open value. -/
def complete? (value : Json) : List Frame → Option Reader
  | [] => some ⟨.nothing value, []⟩
  | .list items :: outer => some ⟨.next, .list (value :: items) :: outer⟩
  | .member members key :: outer => some ⟨.next, .object ((key, value) :: members) :: outer⟩
  | .object _ :: _ => none

/-- A word stands where a value has to begin. -/
def begin? (frames : List Frame) : Token → Option Reader
  | .plain value => complete? value frames
  | .str value => complete? (.str value) frames
  | .openList => some ⟨.item, .list [] :: frames⟩
  | .openObject => some ⟨.firstKey, .object [] :: frames⟩
  | _ => none

/-- A word stands where a key has to be. -/
def key? : List Frame → Token → Option Reader
  | .object members :: outer, .str key => some ⟨.colon, .member members key :: outer⟩
  | _, _ => none

/-- The innermost open value ends. -/
def close? : List Frame → Token → Option Reader
  | .list items :: outer, .closeList => complete? (.list items.reverse) outer
  | .object members :: outer, .closeObject => complete? (.object members.reverse) outer
  | _, _ => none

/-- Takes one word. -/
def Reader.take? (r : Reader) (word : Token) : Option Reader :=
  match r.expect, word with
  | .value, _ => begin? r.frames word
  | .item, .closeList => close? r.frames word
  | .item, _ => begin? r.frames word
  | .key, _ => key? r.frames word
  | .firstKey, .closeObject => close? r.frames word
  | .firstKey, _ => key? r.frames word
  | .colon, .colon => some { r with expect := .value }
  | .next, .comma =>
    match r.frames with
    | .list _ :: _ => some { r with expect := .value }
    | .object _ :: _ => some { r with expect := .key }
    | _ => none
  | .next, _ => close? r.frames word
  | _, _ => none

/-- Takes all words. -/
def Reader.run? (r : Reader) : List Token → Option Reader
  | [] => some r
  | word :: words =>
    match r.take? word with
    | none => none
    | some r => r.run? words

/-- The value that the words are. -/
def ofTokens? (words : List Token) : Option Json :=
  match Reader.run? ⟨.value, []⟩ words with
  | some ⟨.nothing value, _⟩ => some value
  | _ => none

/-- The value that a text is, by the standard grammar and nothing
beside it. -/
def parse? (text : String) : Option Json := (scan text.toList).bind ofTokens?

end VolumeSync.Json
