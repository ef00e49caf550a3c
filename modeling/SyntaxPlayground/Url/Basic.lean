import SyntaxPlayground.Text.Base64
import SyntaxPlayground.Url.Part

/-!
# Web addresses

The address of the compiler service is read and written back in a standard form: the scheme in
small letters, a path whose unsafe bytes are escaped. An address that cannot be read
is refused with a reason. The same rules decide how the path of a request is decoded.
-/

namespace SyntaxPlayground

/-- An address that cannot be read. -/
structure UrlError where
  url : Text
  reason : UrlReason
deriving DecidableEq, Repr

namespace UrlError

/-- The text shown for the error. -/
def message (e : UrlError) : Text :=
  utf8 "parse " ++ e.url.quoted ++ utf8 ": " ++ e.reason.message

end UrlError

/-! ## Who is asking -/

/-- Who is asking, as an address may say in front of the host. -/
structure UrlUser where
  name : Text
  password : Option Text := none
deriving DecidableEq, Repr

namespace UrlUser

/-- A byte that may stand in front of the host. -/
def allows (b : UInt8) : Bool :=
  Text.isLetter b || Text.isDigit b || (utf8 "-._:~!$&'()*+,;=%@").contains b

/-- Reads the text in front of the host: a name and, behind a colon, a password. -/
def read (t : Text) : Except UrlReason UrlUser :=
  if !t.all allows then .error .badUser
  else
    match t.cutByte? 58 with
    | none => (UrlPart.user.unescape t).map fun name => { name }
    | some (name, password) =>
      match UrlPart.user.unescape name, UrlPart.user.unescape password with
      | .error e, _ => .error e
      | _, .error e => .error e
      | .ok name, .ok password => .ok ⟨name, some password⟩

/-- The text in front of the host; nothing if both the name and the password are empty. -/
def write (u : UrlUser) : Text :=
  let password := u.password.getD []
  if u.name = [] ∧ password = [] then []
  else
    UrlPart.user.escape u.name ++
      (if u.password.isSome then 58 :: UrlPart.user.escape password else [])

/-- The text in front of the host with the password hidden. -/
def hidden (u : UrlUser) : Text :=
  if u.password.isSome then u.name ++ utf8 ":***" else u.write

/-- What proves to a server who is asking. -/
def credentials (u : UrlUser) : Text :=
  utf8 "Basic " ++ Text.base64 (u.name ++ [58] ++ u.password.getD [])

end UrlUser

/-! ## Addresses -/

/-- An address in its parts. -/
structure Url where
  scheme : Text := []
  /-- What follows the scheme when it is not a path. -/
  rootless : Option Text := none
  user : Option UrlUser := none
  host : Option Text := none
  path : UrlText := {}
  query : Option Text := none
  fragment : UrlText := {}
deriving DecidableEq, Repr

namespace Url

/-- Splits a text behind its scheme, if it has one. -/
def cutScheme (t : Text) : Except UrlReason (Text × Text) :=
  let scheme := t.takeWhile fun b => Text.isLetter b || Text.isDigit b || b == 43 || b == 45 || b == 46
  match t.drop scheme.length with
  | 58 :: rest =>
    match scheme with
    | [] => .error .missingScheme
    | b :: _ => .ok (if Text.isLetter b then (scheme.map Text.lowerByte, rest) else ([], t))
  | _ => .ok ([], t)

/-- A port with its colon, or nothing. -/
def isPort (t : Text) : Bool :=
  match t with
  | [] => true
  | b :: t => b == 58 && t.all Text.isDigit

/-- What stands from the last `b` on, if there is one. -/
def fromLast? (b : UInt8) (t : Text) : Option Text :=
  if t.contains b then some (b :: (t.reverse.takeWhile (· != b)).reverse) else none

/-- Reads the number in the brackets of a host. -/
def readLiteral (t : Text) : Except UrlReason Text :=
  let mark := utf8 "%25"
  let (address, zone) : Text × Text :=
    match t.cut? mark with
    | none => (t, [])
    | some (address, zone) => (address, mark ++ zone)
  match UrlPart.host.unescape address, UrlPart.zone.unescape zone with
  | .error e, _ => .error e
  | _, .error e => .error e
  | .ok address, .ok zone =>
    let literal := address ++ zone
    match NetworkAddress.form? literal with
    | .error fault => .error (.badAddress literal fault)
    | .ok .dotted => .error .badBrackets
    | .ok .grouped => .ok literal

/-- Reads a host with its port. -/
def readHost (t : Text) : Except UrlReason Text :=
  match fromLast? 91 t with
  | none =>
    let port := (fromLast? 58 t).getD []
    if isPort port then UrlPart.host.unescape t else .error (.badPort port)
  | some inside =>
    if inside.length < t.length then .error .badBrackets
    else
      match fromLast? 93 t with
      | none => .error .missingBracket
      | some tail =>
        let port := tail.drop 1
        if !isPort port then .error (.badPort port)
        else
          (readLiteral ((t.take (t.length - tail.length)).drop 1)).map fun literal =>
            91 :: literal ++ 93 :: port

/-- Reads an authority: a host, and in front of its last `@` who is asking. -/
def readAuthority (t : Text) : Except UrlReason (Option UrlUser × Text) :=
  match fromLast? 64 t with
  | none => (readHost t).map fun host => (none, host)
  | some tail =>
    match readHost (tail.drop 1), UrlUser.read (t.take (t.length - tail.length)) with
    | .error e, _ => .error e
    | _, .error e => .error e
    | .ok host, .ok user => .ok (some user, host)

/-- Cuts the authority, which stands between `//` and the next slash. -/
def cutAuthority? (t : Text) : Option (Text × Text) :=
  match t with
  | 47 :: 47 :: rest =>
    let authority := rest.takeWhile (· != 47)
    some (authority, rest.drop authority.length)
  | _ => none

/-- Reads an address that has no fragment. -/
def readMain (t : Text) : Except UrlReason Url :=
  if t.any (fun b => b < 0x20 || b == 0x7F) then .error .controlCharacter
  else if t = [42] then .ok { path := ⟨t, some t⟩ }
  else
    match cutScheme t with
    | .error e => .error e
    | .ok (scheme, rest) =>
      let (rest, query) : Text × Option Text :=
        match rest.cutByte? 63 with
        | none => (rest, none)
        | some (rest, query) => (rest, some query)
      if rest.head? ≠ some 47 ∧ scheme ≠ [] then .ok { scheme, rootless := some rest, query }
      else if rest.head? ≠ some 47 ∧ (rest.takeWhile (· != 47)).contains 58 then
        .error .colonInFirstSegment
      else
        let authority? :=
          if scheme = [] ∧ (utf8 "///").isPrefixOf rest then none else cutAuthority? rest
        match authority? with
        | none => (UrlText.read .path rest).map fun path => { scheme, path, query }
        | some (authority, rest) =>
          match readAuthority authority with
          | .error e => .error e
          | .ok (user, host) =>
            (UrlText.read .path rest).map fun path =>
              { scheme, user, host := some host, path, query }

/-- Reads an address. -/
def read (t : Text) : Except UrlError Url :=
  let (main, fragment) := (t.cutByte? 35).getD (t, [])
  match readMain main with
  | .error e => .error ⟨main, e⟩
  | .ok url =>
    match UrlText.read .fragment fragment with
    | .error e => .error ⟨t, e⟩
    | .ok fragment => .ok { url with fragment }

/-- The address without a colon that no port follows. -/
def dropEmptyPort (u : Url) : Url :=
  { u with host := u.host.map fun t => if t.getLast? = some 58 then t.dropLast else t }

/-- What an address says before its path, with the given text for who is asking. -/
def originWith (display : UrlUser → Text) (u : Url) : Text :=
  let scheme := if u.scheme = [] then [] else u.scheme ++ [58]
  match u.host with
  | none => scheme
  | some host =>
    if host = [] ∧ u.user = none ∧ (u.scheme = [] ∨ u.path.decoded = []) then scheme
    else
      scheme ++ utf8 "//" ++ (u.user.map (display · ++ [64])).getD [] ++ UrlPart.host.escape host

/-- The path of an address behind its origin. A host is set apart by a slash; a first segment with a
colon, which would look like a scheme, is set apart by a dot. -/
def pathAfter (u : Url) (origin : Text) : Text :=
  let path := u.path.write .path
  if u.host.getD [] ≠ [] ∧ path ≠ [] ∧ path.head? ≠ some 47 then 47 :: path
  else if origin = [] ∧ (path.takeWhile (· != 47)).contains 58 then utf8 "./" ++ path
  else path

/-- An address as it is sent, with the given text for who is asking. -/
def writeWith (display : UrlUser → Text) (u : Url) : Text :=
  let main :=
    match u.rootless with
    | some rest => u.scheme ++ [58] ++ rest
    | none =>
      let origin := u.originWith display
      origin ++ u.pathAfter origin
  main ++ ((u.query.map (63 :: ·)).getD []) ++
    (if u.fragment.decoded = [] then [] else 35 :: u.fragment.write .fragment)

/-- An address as it is sent. -/
def write (u : Url) : Text :=
  u.writeWith UrlUser.write

/-- An address as it is shown, with the password hidden. -/
def shown (u : Url) : Text :=
  u.writeWith UrlUser.hidden

/-- How many fields a query may have. -/
def queryFieldLimit : Nat := 10000

/-- The first value that a query gives for a key; a query with too many fields gives none. -/
def queryValue? (query key : Text) : Option Text :=
  let fields := query.splitByte 38
  if queryFieldLimit < fields.length then none
  else fields.findSome? fun field =>
    if field.contains 59 then none
    else
      let (k, v) := (field.cutByte? 61).getD (field, [])
      match UrlPart.query.unescape k, UrlPart.query.unescape v with
      | .ok k, .ok v => if k = key ∧ field ≠ [] then some v else none
      | _, _ => none

end Url

end SyntaxPlayground
