import SyntaxPlayground.Url.Basic

/-!
# Requests and responses

A request has a method, a target with path and query, headers and a body. Header names are compared
without regard to case.
-/

namespace SyntaxPlayground

/-- A request as it comes in. -/
structure HttpRequest where
  /-- Empty for the usual method, `GET`. -/
  method : Text
  /-- The path and, after a question mark, the query; or a whole address. -/
  target : Text
  host : Text
  headers : List (Text × Text) := []
  body : Text := []
deriving DecidableEq, Repr

/-- A response as it goes out. -/
structure HttpResponse where
  status : Nat
  /-- The type of the body; empty if the response does not say. -/
  contentType : Text := []
  body : Text := []
deriving DecidableEq, Repr

namespace HttpResponse

/-- A response in plain text, which ends in a newline. -/
def plain (status : Nat) (t : Text) : HttpResponse :=
  ⟨status, utf8 "text/plain; charset=utf-8", t ++ [10]⟩

/-- The response to a path that does not exist. -/
def notFound : HttpResponse :=
  plain 404 (utf8 "404 page not found")

/-- The response to a method that a path does not have. -/
def methodNotAllowed : HttpResponse :=
  { status := 405 }

end HttpResponse

/-- Whether two names differ in case only. -/
def sameLetters (a b : Text) : Bool :=
  a.map Text.lowerByte == b.map Text.lowerByte

namespace HttpRequest

/-- The values of a header. -/
def headerValues (r : HttpRequest) (name : Text) : List Text :=
  (r.headers.filter fun (k, _) => sameLetters k name).map Prod.snd

/-- The first value of a header, empty if there is none. -/
def header (r : HttpRequest) (name : Text) : Text :=
  (r.headerValues name).headD []

/-- The method with its usual value filled in. -/
def verb (r : HttpRequest) : Text :=
  if r.method = [] then utf8 "GET" else r.method

/-- The address that the target stands for; `none` if it cannot be read. A target that begins with
a slash names no host, however many slashes follow. -/
def address? (r : HttpRequest) : Option Url :=
  if r.target.head? = some 47 then
    let (path, query) : Text × Option Text :=
      match r.target.cutByte? 63 with
      | none => (r.target, none)
      | some (path, query) => (path, some query)
    (UrlText.read .path path).toOption.map fun path => { path, query }
  else (Url.readMain r.target).toOption

/-- The path that routes are matched against; `none` if it cannot be read. -/
def path? (r : HttpRequest) : Option Text :=
  r.address?.map (·.path.routed)

/-- The query of the target, empty if there is none. -/
def query (r : HttpRequest) : Text :=
  (r.address?.bind Url.query).getD []

/-- The host that the request is for: the one in the target, or else the one it was sent to. -/
def recipient (r : HttpRequest) : Text :=
  match r.address?.bind Url.host with
  | none | some [] => r.host
  | some host => host

/-- The key that the request presents: in a header, or in the query. -/
def token (r : HttpRequest) : Text :=
  let scheme := utf8 "Bearer "
  let authorization := r.header (utf8 "Authorization")
  if scheme.isPrefixOf authorization then authorization.drop scheme.length
  else (Url.queryValue? r.query (utf8 "token")).getD []

/-! ## Asking for a socket -/

/-- A byte that a token may hold. -/
def isTokenByte (b : UInt8) : Bool :=
  Text.isLetter b || Text.isDigit b || (utf8 "!#$%&'*+-.^_`|~").contains b

/-- The elements of a list in a header, up to the first one that is no token. -/
def elements (value : Text) : List Text :=
  let isSpace (b : UInt8) : Bool := b == 32 || b == 9
  let trimmed := (value.splitByte 44).map fun t =>
    ((t.dropWhile isSpace : Text)).dropTrailing isSpace
  trimmed.takeWhile fun t => !t.isEmpty && t.all isTokenByte

/-- Whether a header lists an element. -/
def lists (r : HttpRequest) (name element : Text) : Bool :=
  (r.headerValues name).any fun value => (elements value).any (sameLetters · element)

/-- Whether a text is sixteen bytes in base 64. -/
def isSocketKey (t : Text) : Bool :=
  let key := t.filter fun b => b != 10 && b != 13
  key.length == 24 && key.drop 22 == utf8 "==" &&
    (key.take 22).all fun b => Text.isLetter b || Text.isDigit b || b == 43 || b == 47

/-- Whether a page from the same host asks, or no page at all. -/
def hasSameOrigin (r : HttpRequest) : Bool :=
  match r.headerValues (utf8 "Origin") with
  | [] => true
  | origin :: _ =>
    match Url.read origin with
    | .ok u => sameLetters (u.host.getD []) r.recipient
    | .error _ => false

/-- Why a socket is refused to the request, if it is. -/
def socketRefusal? (r : HttpRequest) : Option HttpResponse :=
  let bad := some (HttpResponse.plain 400 (utf8 "Bad Request"))
  if !r.lists (utf8 "Connection") (utf8 "upgrade") then bad
  else if !r.lists (utf8 "Upgrade") (utf8 "websocket") then bad
  else if !r.lists (utf8 "Sec-WebSocket-Version") (utf8 "13") then bad
  else if !r.hasSameOrigin then some (.plain 403 (utf8 "Forbidden"))
  else if !isSocketKey (r.header (utf8 "Sec-WebSocket-Key")) then bad
  else none

end HttpRequest

end SyntaxPlayground
