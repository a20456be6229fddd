import VolumeSync.Text.Percent

-- The path of a URL as a list of segments. A segment of one dot stands
-- for the segment before, and one of two dots for the one before that; a
-- dot may also be written in percent-encoding. No dots lead out of a
-- segment that is a drive.

namespace VolumeSync.Url

/-- The characters that stand for themselves in a path. -/
def keepInPath (c : Char) : Bool :=
  0x20 < c.toNat && c.toNat < 0x7F && !"\"<>\x60#?\x7b\x7d".toList.contains c

/-- One dot, encoded or not. -/
def isSingleDot (segment : List Char) : Bool :=
  ["." , "%2e"].contains (String.ofList (segment.map Char.toLower))

/-- Two dots, each encoded or not. -/
def isDoubleDot (segment : List Char) : Bool :=
  ["..", ".%2e", "%2e.", "%2e%2e"].contains (String.ofList (segment.map Char.toLower))

/-- A letter and a colon, or a letter and a bar: a drive. -/
def isDrive : List Char → Bool
  | [letter, mark] => letter.isAlpha && (mark == ':' || mark == '|')
  | _ => false

/-- The segment is a drive, or begins with one and a backslash. -/
def isOnDrive (segment : List Char) : Bool := isDrive (segment.takeWhile (· != '\\'))

/-- Drops the last segment, unless it is a drive. -/
def dropSegment (segments : List (List Char)) : List (List Char) :=
  if segments.getLast?.any isOnDrive then segments else segments.dropLast

/-- Puts one written segment behind the others; `last` says that nothing
follows it, and then a dot segment leaves an empty one. -/
def addSegment (segments : List (List Char)) (written : List Char) (last : Bool) :
    List (List Char) :=
  if isDoubleDot written then dropSegment segments ++ if last then [[]] else []
  else if isSingleDot written then segments ++ if last then [[]] else []
  else segments ++ [Text.Percent.encode keepInPath written]

/-- Puts written segments behind the others. -/
def addSegments (segments : List (List Char)) : List (List Char) → List (List Char)
  | [] => segments
  | [written] => addSegment segments written true
  | written :: rest => addSegments (addSegment segments written false) rest

/-- Cuts at every character that is a slash. -/
def cutAtSlashes (isSlash : Char → Bool) (cs : List Char) : List (List Char) := cs.splitOnP isSlash

/-- The segments of a path, the slash at its start taken off. -/
def segmentsOf (isSlash : Char → Bool) (cs : List Char) : List (List Char) :=
  addSegments [] (cutAtSlashes isSlash cs)

/-- A path in writing, a slash before each segment. -/
def segmentChars (segments : List (List Char)) : List Char := segments.flatMap ('/' :: ·)

end VolumeSync.Url
