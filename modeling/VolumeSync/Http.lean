import VolumeSync.HttpStatus
import VolumeSync.Url

-- Requests over HTTP. A reply may point to another place, and the library
-- that sends requests may then ask there by itself, so one request can lead
-- to a chain of them. How the library goes on from such a reply is left
-- open; how long the chain may get is not.

namespace VolumeSync

/-! ## Requests and replies -/

/-- The methods of requests. -/
inductive HttpMethod where
  | put
  | patch
  | get
  deriving DecidableEq, Repr

/-- The method in writing. -/
def HttpMethod.text : HttpMethod → String
  | .put => "PUT"
  | .patch => "PATCH"
  | .get => "GET"

/-- A request as the server sees it. One without content has no type of
content and an empty body. -/
structure HttpRequest where
  method : HttpMethod
  url : Url
  /-- The header lines by which the sender asks to be let in, in order. -/
  authorization : List String
  contentType : Option String
  body : String
  deriving DecidableEq

/-- What a server replies. The location is the place that it points to, if
it names one. -/
structure HttpReply where
  status : HttpStatus
  location : Option String
  text : String
  deriving DecidableEq, Repr

/-- The reply points to another place. -/
def HttpReply.isRedirect (r : HttpReply) : Bool := r.status.isRedirect && r.location.isSome

/-- What comes back for a request: a reply, or nothing because there is no
way to the server. -/
inductive HttpAnswer where
  | answered (reply : HttpReply)
  | unreachable
  deriving DecidableEq, Repr

/-- The servers, as a function of the requests of one chain so far. What it
gives is the answer to the last of them. -/
abbrev Network := List HttpRequest → HttpAnswer

/-! ## What may go wrong -/

/-- Why a request got no reply. -/
inductive HttpError where
  /-- The URL or a header line cannot be part of any request. -/
  | unbuildable
  /-- The URL is one, but leads to no HTTP server. -/
  | unusable (url : Url)
  /-- There is no way to the server. -/
  | unreachable (url : Url)
  /-- One reply after the other points to another place. -/
  | misled (url : Url)
  deriving DecidableEq

namespace HttpError

/-- A URL in parentheses. -/
def atUrl (url : Url) : String := "for url (" ++ url.text ++ ")"

/-- The error in words. -/
def message : HttpError → String
  | .unbuildable => "builder error"
  | .unusable url => "builder error " ++ atUrl url
  | .unreachable url => "error sending request " ++ atUrl url
  | .misled url => "error following redirect " ++ atUrl url

end HttpError

/-! ## Chains of requests -/

/-- What the library does about a reply that points to another place: it
goes on with another request, or takes the reply as it is, or gives up. -/
abbrev Redirects := HttpRequest → HttpReply → Except HttpError (Option HttpRequest)

/-- The request that the reply to a request leads to. -/
def Redirects.next (redirects : Redirects) (sent : HttpRequest) (reply : HttpReply) :
    Except HttpError (Option HttpRequest) :=
  if reply.isRedirect then redirects sent reply else .ok none

/-- What comes of a request: the requests that servers saw, and the reply
that is left at the end of the chain. -/
structure Exchange where
  seen : List HttpRequest
  result : Except HttpError HttpReply

namespace Exchange

/-- The most requests that the library makes by itself in one chain. -/
def maxHops : Nat := 10

/-- Sends a request that comes after those of the chain before it, and goes
on from the reply for at most so many hops. -/
def run (network : Network) (redirects : Redirects) :
    Nat → List HttpRequest → HttpRequest → Exchange
  | hops, before, sent =>
    let seen := before ++ [sent]
    match network seen with
    | .unreachable => ⟨before, .error (.unreachable sent.url)⟩
    | .answered reply =>
      match redirects.next sent reply, hops with
      | .error err, _ => ⟨seen, .error err⟩
      | .ok none, _ => ⟨seen, .ok reply⟩
      | .ok (some _), 0 => ⟨seen, .error (.misled sent.url)⟩
      | .ok (some next), hops + 1 => run network redirects hops seen next

/-- Sends a request. -/
def ofRequest (network : Network) (redirects : Redirects) (sent : HttpRequest) : Exchange :=
  run network redirects maxHops [] sent

end Exchange

end VolumeSync
