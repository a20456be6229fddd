import VolumeSync.Url.Domain.Label

-- Domain names in the ASCII form that is looked up: the name is read, cut
-- into labels at its dots, and a label with characters beyond ASCII is
-- written in Punycode.

namespace VolumeSync.Url.Domain

/-- The ASCII characters that no name may hold. -/
def isDeniedAscii (c : Char) : Bool :=
  c.toNat ≤ 0x20 || c.toNat == 0x7F || "%#/:<>?@[\\]^|".toList.contains c

/-- The labels of a name, if every character can be read and every label
is one. -/
def labels? (name : List Char) : Option (List Label) := do
  let folded ← read? name
  guard (!folded.any isDeniedAscii)
  (folded.splitOn '.').mapM Label.ofChars?

/-- The labels can stand in one name: each is well formed, and if one has a
character written from the right, each goes in one direction. -/
def fitTogether (labels : List Label) : Bool :=
  labels.all Label.isWellFormed
    && (!labels.any Label.hasRightToLeft || labels.all fun label => goesOneWay label.meaning)

/-- The ASCII form of a name. -/
def toAscii? (name : List Char) : Option (List Char) := do
  let labels ← labels? name
  guard (fitTogether labels)
  return ['.'].intercalate (labels.map Label.written)

end VolumeSync.Url.Domain
