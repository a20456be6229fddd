import VolumeSync.Descriptor.Json
import VolumeSync.Effect
import VolumeSync.Http
import VolumeSync.Json.Writer
import VolumeSync.Text.Base64
import VolumeSync.Url.Target

-- The provider behind an HTTP interface: which request an update makes,
-- and what the reply to it means. A request that cannot be made is not
-- sent. An update sends one request at most by itself; more than one are
-- seen only where a reply points to another place.

namespace VolumeSync

/-- Metadata is replaced as a whole, tags are added to. -/
def UpdateKind.method : UpdateKind → HttpMethod
  | .metadata => .put
  | .tags => .patch

/-! ## What may go wrong -/

/-- Why an update failed. -/
inductive UpdateError where
  /-- No server has said what came of it. -/
  | unanswered (err : HttpError)
  /-- The server has said that it would not do it. -/
  | refused (method : HttpMethod) (builtUrl : String) (status : HttpStatus) (reply : String)
  deriving DecidableEq

/-- The error in words. -/
def UpdateError.message : UpdateError → String
  | .unanswered err => err.message
  | .refused method builtUrl status reply =>
    (WatcherError.provider
      (method.text ++ " " ++ builtUrl ++ " returned " ++ status.text ++ ": " ++ reply)).message

/-! ## Endpoints -/

/-- A provider that is reached over HTTP. -/
structure Endpoint where
  base : List Char
  token : Option String
  providerType : String
  deriving DecidableEq

namespace Endpoint

/-- The characters without the slashes at the end. -/
def trimSlashes (cs : List Char) : List Char := (cs.reverse.dropWhile (· == '/')).reverse

/-- The provider below a base URL. -/
def below (base : String) (token : Option String) (providerType : String) : Endpoint :=
  ⟨trimSlashes base.toList, token, providerType⟩

/-- The name of the collection of volumes. -/
def collection : List Char := "volumes".toList

/-- The URL of an update, as it is built: the base, the collection, the
volume in percent-encoding and the kind. -/
def volumeUrl (e : Endpoint) (kind : UpdateKind) (volumeId : String) : List Char :=
  e.base ++ '/' :: (collection ++
    '/' :: (Text.Percent.encode Text.Percent.isUnreserved volumeId.toList ++
      '/' :: kind.word.toList))

/-- A character that a header line may hold. -/
def isHeaderChar (c : Char) : Bool := c == '\t' || (0x20 ≤ c.toNat && c.toNat != 0x7F)

/-- The header line that shows the token. -/
def tokenLine (token : String) : String := "Bearer " ++ token

/-- The header line that shows the user of a URL and the password. -/
def userLine (user : List Char × Option (List Char)) : String :=
  let shown := user.1 ++ ':' :: user.2.getD []
  "Basic " ++ String.ofList (Text.Base64.encode (shown.flatMap String.utf8EncodeChar))

/-- The characters that a URL's host may hold and a request's may not. -/
def isOddInHost (c : Char) : Bool := c == '"' || c == '\x60' || c == '\x7b' || c == '\x7d'

/-- The URL leads to an HTTP server and fits into a request. -/
def isSendable (url : Url) : Bool :=
  (url.scheme == "http".toList || url.scheme == "https".toList)
    && !(url.host.any fun host => host.chars.any isOddInHost)
    && url.text.utf8ByteSize ≤ Url.Target.maxLength

/-- The request of an update, or why there is none. Of several reasons the
one that has to do with the URL's own form comes first, then the token,
then where the URL leads. A user in the URL is taken out of it and shown in
a header line. -/
def request (e : Endpoint) (kind : UpdateKind) (d : Descriptor) :
    Except HttpError HttpRequest := do
  let some built := Url.parse? (e.volumeUrl kind d.volumeId) | throw .unbuildable
  unless built.hasHost do throw (.unusable built)
  unless e.token.all (·.toList.all isHeaderChar) do throw .unbuildable
  let url := built.withoutUser
  unless isSendable url do throw (.unusable url)
  return {
    method := kind.method
    url
    authorization := (built.user?.map userLine).toList ++ (e.token.map tokenLine).toList
    contentType := some "application/json"
    body := d.toJson.render }

/-- What the end of an exchange means for the update. -/
def judge (e : Endpoint) (kind : UpdateKind) (d : Descriptor) :
    Except HttpError HttpReply → Except UpdateError Unit
  | .error err => .error (.unanswered err)
  | .ok reply =>
    if reply.status.isSuccess then .ok ()
    else .error (.refused kind.method (String.ofList (e.volumeUrl kind d.volumeId)) reply.status
      reply.text)

/-- An update, as the two sides see it: the requests that reached servers,
and how the update went. -/
structure Update where
  seen : List HttpRequest
  result : Except UpdateError Unit

/-- Makes an update. -/
def update (network : Network) (redirects : Redirects) (e : Endpoint) (kind : UpdateKind)
    (d : Descriptor) : Update :=
  match e.request kind d with
  | .error err => ⟨[], .error (.unanswered err)⟩
  | .ok sent =>
    let exchange := Exchange.ofRequest network redirects sent
    ⟨exchange.seen, e.judge kind d exchange.result⟩

end Endpoint

end VolumeSync
