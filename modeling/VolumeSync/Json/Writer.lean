import VolumeSync.Json
import VolumeSync.Text.Hex

-- JSON text out of values: no blanks, members in their order, and
-- escapes only where the grammar wants one.

namespace VolumeSync.Json

/-! ## Strings -/

/-- A character inside a written string. The quote, the backslash and the
control characters are escaped, by a letter where there is one. -/
def charInString (c : Char) : List Char :=
  if c = '"' then ['\\', '"']
  else if c = '\\' then ['\\', '\\']
  else if c = '\x08' then ['\\', 'b']
  else if c = '\x0c' then ['\\', 'f']
  else if c = '\n' then ['\\', 'n']
  else if c = '\r' then ['\\', 'r']
  else if c = '\t' then ['\\', 't']
  else if c.toNat < 0x20 then
    ['\\', 'u', '0', '0', Text.lowerHexDigit (c.toNat / 16), Text.lowerHexDigit (c.toNat % 16)]
  else [c]

/-- A written string. -/
def writtenString (s : String) : List Char :=
  '"' :: (s.toList.flatMap charInString ++ ['"'])

/-- A written literal. One that denotes no text is written as half of a
pair, which is what it is. -/
def writtenLiteral : Literal → List Char
  | some s => writtenString s
  | none => "\"\\ud800\"".toList

/-! ## Values -/

mutual

/-- A written value. -/
def written : Json → List Char
  | .null => "null".toList
  | .bool true => "true".toList
  | .bool false => "false".toList
  | .int value => (toString value).toList
  | .real lexeme => lexeme.toList
  | .str value => writtenLiteral value
  | .list items => '[' :: (writtenItems items ++ [']'])
  | .object members => '{' :: (writtenMembers members ++ ['}'])

/-- Written values, commas between them. -/
def writtenItems : List Json → List Char
  | [] => []
  | value :: rest => written value ++ writtenItemsAfter rest

/-- Written values, a comma before each. -/
def writtenItemsAfter : List Json → List Char
  | [] => []
  | value :: rest => ',' :: (written value ++ writtenItemsAfter rest)

/-- Written members, commas between them. -/
def writtenMembers : List (Literal × Json) → List Char
  | [] => []
  | (key, value) :: rest =>
    writtenLiteral key ++ ':' :: (written value ++ writtenMembersAfter rest)

/-- Written members, a comma before each. -/
def writtenMembersAfter : List (Literal × Json) → List Char
  | [] => []
  | (key, value) :: rest =>
    ',' :: (writtenLiteral key ++ ':' :: (written value ++ writtenMembersAfter rest))

end

/-- The text of a value. -/
def render (value : Json) : String := String.ofList value.written

end VolumeSync.Json
