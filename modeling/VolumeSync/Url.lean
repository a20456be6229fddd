import VolumeSync.Url.Host
import VolumeSync.Url.Path

-- URLs: how an absolute one is read by the URL standard, and how it is
-- written in its normal form.

namespace VolumeSync

/-! ## Parts -/

/-- The path of a URL: segments, or for a URL that is no place in a
hierarchy a text without structure. -/
inductive Url.Path where
  | segments (segments : List (List Char))
  | text (text : List Char)
  deriving DecidableEq, Repr

/-- A URL in its normal form. A host that is absent differs from one that
is empty. -/
structure Url where
  scheme : List Char
  username : List Char
  password : List Char
  host : Option Url.Host
  portNumber : Option Nat
  path : Url.Path
  query : Option (List Char)
  fragment : Option (List Char)
  deriving DecidableEq, Repr

namespace Url

/-- The schemes with rules of their own, and the port numbers that they
need not say. -/
def knownSchemes : List (String × Option Nat) :=
  [("http", some 80), ("https", some 443), ("ws", some 80), ("wss", some 443), ("ftp", some 21),
   ("file", none)]

/-- The scheme has rules of its own. -/
def isKnown (scheme : List Char) : Bool :=
  (knownSchemes.lookup (String.ofList scheme)).isSome

/-- The scheme of local files. -/
def isFile (scheme : List Char) : Bool := scheme == "file".toList

/-- The port number that the scheme need not say. -/
def defaultPortNumber? (scheme : List Char) : Option Nat :=
  (knownSchemes.lookup (String.ofList scheme)).join

/-- A slash of the scheme: where a scheme has rules of its own a
backslash is one too. -/
def isSlash (scheme : List Char) (c : Char) : Bool := c == '/' || (c == '\\' && isKnown scheme)

/-! ## What stands for itself -/

/-- A printing ASCII character. -/
def isPrinting (c : Char) : Bool := 0x20 < c.toNat && c.toNat < 0x7F

/-- The characters that stand for themselves in a user name. -/
def keepInUser (c : Char) : Bool :=
  isPrinting c && !"\"<>\x60#?\x7b\x7d/:;=@[\\]^|".toList.contains c

/-- The characters that stand for themselves in a query. -/
def keepInQuery (scheme : List Char) (c : Char) : Bool :=
  isPrinting c && !"\"#<>".toList.contains c && !(c == '\'' && isKnown scheme)

/-- The characters that stand for themselves in a fragment. -/
def keepInFragment (c : Char) : Bool := isPrinting c && !"\"<>\x60".toList.contains c

/-- The characters that stand for themselves in a path without
structure. -/
def keepInText (c : Char) : Bool := 0x20 ≤ c.toNat && c.toNat < 0x7F

/-! ## Cutting -/

/-- The characters before the first that is `at`, and those after it if
there is one. -/
def cutAt (mark : Char) (cs : List Char) : List Char × Option (List Char) :=
  match cs.dropWhile (· != mark) with
  | [] => (cs, none)
  | _ :: after => (cs.takeWhile (· != mark), some after)

/-- A control character or a space. -/
def isControlOrSpace (c : Char) : Bool := c.toNat ≤ 0x20

/-- The input without controls and spaces at its ends and without tabs and
line ends anywhere. -/
def strip (cs : List Char) : List Char :=
  (((cs.dropWhile isControlOrSpace).reverse.dropWhile isControlOrSpace).reverse).filter
    fun c => !(c == '\t' || c == '\n' || c == '\r')

/-- The scheme in lower case and what follows its colon. -/
def scheme? (cs : List Char) : Option (List Char × List Char) := do
  let (scheme, some rest) := cutAt ':' cs | none
  let first ← scheme.head?
  guard (first.isAlpha && scheme.all fun c => c.isAlphanum || c == '+' || c == '-' || c == '.')
  return (scheme.map Char.toLower, rest)

/-! ## Authorities -/

/-- The text before the last at-sign, and the text after it. -/
def cutAtLastAt (cs : List Char) : Option (List Char) × List Char :=
  let after := (cs.reverse.takeWhile (· != '@')).reverse
  if cs.contains '@' then (some (cs.take (cs.length - after.length - 1)), after) else (none, cs)

/-- Where the host ends: at the first colon outside brackets. -/
def cutPortNumber (inBrackets : Bool) : List Char → List Char × Option (List Char)
  | [] => ([], none)
  | ':' :: rest =>
    if inBrackets then
      let (host, portNumber) := cutPortNumber inBrackets rest
      (':' :: host, portNumber)
    else ([], some rest)
  | c :: rest =>
    let (host, portNumber) := cutPortNumber (c == '[' || (inBrackets && c != ']')) rest
    (c :: host, portNumber)

/-- A port number: digits below 65536, or nothing. The one that the scheme
need not say is not said. -/
def portNumber? (scheme cs : List Char) : Option (Option Nat) :=
  if cs.isEmpty then some none
  else if cs.all Char.isDigit && Text.digitsValue cs < 65536 then
    let portNumber := Text.digitsValue cs
    some (if defaultPortNumber? scheme = some portNumber then none else some portNumber)
  else none

/-- What stands between the two slashes and the path. A backslash ends a
port number; what follows it then belongs to the path. -/
structure Authority where
  username : List Char
  password : List Char
  host : Host
  portNumber : Option Nat
  rest : List Char

/-- Reads an authority; `more` says that something follows it. A user
needs a host, and so does a port number and every scheme with rules of its
own. -/
def authority? (scheme cs : List Char) (more : Bool) : Option Authority := do
  let (user, rest) := cutAtLastAt cs
  let (username, password) := cutAt ':' (user.getD [])
  let username := Text.Percent.encode keepInUser username
  let password := Text.Percent.encode keepInUser (password.getD [])
  let (hostText, portText) := cutPortNumber false rest
  if hostText.isEmpty then
    guard (!isKnown scheme && portText.isNone && username.isEmpty && password.isEmpty)
    guard !(user == some [] && more)
    return ⟨username, password, .name [], none, []⟩
  else
    let host ← if isKnown scheme then Host.ofKnown? hostText else Host.ofOther? hostText
    let portText := portText.getD []
    let portNumber ← portNumber? scheme (portText.takeWhile (· != '\\'))
    return ⟨username, password, host, portNumber, portText.dropWhile (· != '\\')⟩

/-! ## Paths -/

/-- The path of a URL with an authority, or of one whose path begins with
a slash. -/
def hierarchy (scheme cs : List Char) : Path :=
  let slash := isSlash scheme
  match cs with
  | [] => .segments (if isKnown scheme then [[]] else [])
  | c :: rest => .segments (segmentsOf slash (if slash c then rest else c :: rest))

/-- Segments of a local file: none that is empty comes first, unless it is
the only one. -/
def fileSegments (cs : List Char) : List (List Char) :=
  match hierarchy "file".toList cs with
  | .segments segments =>
    match segments.dropWhile List.isEmpty with
    | [] => [[]]
    | segments => segments
  | .text _ => [[]]

/-- The host and the path of a local file. The local host is no host, and
a drive is none either. -/
def file? (cs : List Char) : Option (Host × Path) :=
  let slash := isSlash "file".toList
  match cs with
  | a :: b :: rest =>
    if slash a && slash b then
      let hostText := rest.takeWhile fun c => !slash c
      let pathText := rest.dropWhile fun c => !slash c
      if hostText.isEmpty then some (.name [], .segments (fileSegments pathText))
      else if isDrive hostText then some (.name [], .segments (fileSegments rest))
      else do
        let host ← Host.ofKnown? hostText
        return (if host = .name "localhost".toList then .name [] else host,
          .segments (fileSegments pathText))
    else some (.name [], .segments (fileSegments cs))
  | cs => some (.name [], .segments (fileSegments cs))

/-! ## Reading -/

/-- Reads what stands between the scheme and the query; `more` says that a
query or a fragment follows. -/
def place? (scheme cs : List Char) (more : Bool) : Option Url :=
  let slash := isSlash scheme
  let made (a : Authority) (host : Option Host) (path : Path) : Url :=
    ⟨scheme, a.username, a.password, host, a.portNumber, path, none, none⟩
  let nobody : Authority := ⟨[], [], .name [], none, []⟩
  let withAuthority (cs : List Char) : Option Url := do
    let pathText := cs.dropWhile fun c => !slash c
    let a ← authority? scheme (cs.takeWhile fun c => !slash c) (more || !pathText.isEmpty)
    return made a (some a.host) (hierarchy scheme (a.rest ++ pathText))
  if isFile scheme then do
    let (host, path) ← file? cs
    return made nobody (some host) path
  else if isKnown scheme then withAuthority (cs.dropWhile slash)
  else match cs with
    | '/' :: '/' :: rest => withAuthority rest
    | '/' :: rest => some (made nobody none (hierarchy scheme ('/' :: rest)))
    | text => some (made nobody none (.text (Text.Percent.encode keepInText text)))

/-- Reads an absolute URL. -/
def parse? (input : List Char) : Option Url := do
  let (scheme, rest) ← scheme? (strip input)
  let (beforeFragment, fragment) := cutAt '#' rest
  let (beforeQuery, query) := cutAt '?' beforeFragment
  let url ← place? scheme beforeQuery (query.isSome || fragment.isSome)
  return { url with
    query := query.map (Text.Percent.encode (keepInQuery scheme))
    fragment := fragment.map (Text.Percent.encode keepInFragment) }

/-! ## Writing -/

/-- The user, with an at-sign after it, if there is one. -/
def userChars (u : Url) : List Char :=
  if u.username.isEmpty && u.password.isEmpty then []
  else if u.password.isEmpty then u.username ++ ['@']
  else u.username ++ ':' :: (u.password ++ ['@'])

/-- The authority with its two slashes, if there is one. -/
def authorityChars (u : Url) : List Char :=
  match u.host with
  | none => []
  | some host =>
    "//".toList ++ u.userChars ++ host.chars ++
      ((u.portNumber.map fun portNumber => ':' :: (toString portNumber).toList).getD [])

/-- The path. Where no authority stands before it, it must not look like
one. -/
def pathChars (u : Url) : List Char :=
  match u.host, u.path with
  | _, .text text => text
  | none, .segments ([] :: rest) =>
    (if rest.isEmpty then [] else "/.".toList) ++ segmentChars ([] :: rest)
  | _, .segments segments => segmentChars segments

/-- The URL in writing. -/
def chars (u : Url) : List Char :=
  u.scheme ++ ':' :: (u.authorityChars ++ u.pathChars ++
    ((u.query.map ('?' :: ·)).getD []) ++ ((u.fragment.map ('#' :: ·)).getD []))

/-- The URL in writing. -/
def text (u : Url) : String := String.ofList u.chars

/-- The text is an absolute URL. -/
def isUrl (text : String) : Bool := (parse? text.toList).isSome

/-- The URL has a host with a name or an address. -/
def hasHost (u : Url) : Bool :=
  match u.host with
  | none => false
  | some host => host != .name []

/-- The user that the URL names, and the password if there is one, both
decoded. A name that cannot be decoded tells of no user, and a password that
cannot be is none. -/
def user? (u : Url) : Option (List Char × Option (List Char)) :=
  let password := if u.password.isEmpty then none else Text.Percent.decode? u.password
  match Text.Percent.decode? u.username with
  | none => none
  | some name => if name.isEmpty && password.isNone then none else some (name, password)

/-- The URL without its user, if it names one; else the URL as it is. -/
def withoutUser (u : Url) : Url :=
  if u.user?.isSome then { u with username := [], password := [] } else u

end Url

end VolumeSync
