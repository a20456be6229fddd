import VolumeSync.Url

-- The target of a request: the path and the query that its first line
-- names. What stands in it has been encoded by whoever wrote it; a target
-- with a character that should have been is no target.

namespace VolumeSync.Url.Target

/-- The longest target, in bytes. A whole URL may not be longer either. -/
def maxLength : Nat := 65534

/-- A character that may stand in a path or a query for all that targets
care: a printing one, or one beyond ASCII. -/
def isVisible (c : Char) : Bool := isPrinting c || 0x80 ≤ c.toNat

/-- A character that may stand in the path. -/
def isPathChar (c : Char) : Bool := isVisible c && !"<>\x60".toList.contains c

/-- A character that may stand in the query. -/
def isQueryChar (c : Char) : Bool := isVisible c && !"\"<>".toList.contains c

/-- The characters are a target. What follows a number sign is no part of
it and may be anything, but counts for the length. -/
def isTarget (cs : List Char) : Bool :=
  let (path, query) := cutAt '?' (cutAt '#' cs).1
  path.all isPathChar && (query.getD []).all isQueryChar
    && (String.ofList cs).utf8ByteSize ≤ maxLength

end VolumeSync.Url.Target
