import SyntaxPlayground.Url.NetworkAddress

/-!
# The parts of an address and their escapes

A byte that may not stand in a part of an address is written as a percent sign and two hexadecimal
digits. Which bytes need it differs from part to part. A part is read into the bytes that it stands
for; where these can be written in several ways, the way it was written is kept.
-/

namespace SyntaxPlayground

/-- The part of an address that some text stands in; each part may hold other bytes as they are. -/
inductive UrlPart where
  | path
  /-- The name or the password of who is asking. -/
  | user
  | host
  /-- What follows the percent sign of a host that is a number. -/
  | zone
  | query
  | fragment
deriving DecidableEq, Repr

/-- Why an address cannot be read. -/
inductive UrlReason where
  | controlCharacter
  | missingScheme
  | colonInFirstSegment
  | badUser
  | badHostCharacter (b : UInt8)
  | missingBracket
  /-- Brackets that stand in a wrong place, or around an address that needs none. -/
  | badBrackets
  | badAddress (address : Text) (fault : AddressFault)
  | badPort (port : Text)
  | badEscape (escape : Text)
deriving DecidableEq, Repr

namespace UrlReason

/-- The text of a reason. -/
def message : UrlReason → Text
  | controlCharacter => utf8 "net/url: invalid control character in URL"
  | missingScheme => utf8 "missing protocol scheme"
  | colonInFirstSegment => utf8 "first path segment in URL cannot contain colon"
  | badUser => utf8 "net/url: invalid userinfo"
  | badHostCharacter b => utf8 "invalid character " ++ Text.quoted [b] ++ utf8 " in host name"
  | missingBracket => utf8 "missing ']' in host"
  | badBrackets => utf8 "invalid IP-literal"
  | badAddress address fault => utf8 "invalid host: " ++ fault.message address
  | badPort port => utf8 "invalid port " ++ port.quoted ++ utf8 " after host"
  | badEscape escape => utf8 "invalid URL escape " ++ escape.quoted

end UrlReason

namespace UrlPart

/-- Whether a byte stands for itself in every part. -/
def isPlain (b : UInt8) : Bool :=
  Text.isLetter b || Text.isDigit b || b == 45 || b == 95 || b == 46 || b == 126

/-- Whether a byte is escaped when the part is written. -/
def escapes (part : UrlPart) (b : UInt8) : Bool :=
  if isPlain b then false
  else
    match part with
    | .path => !(utf8 "$&+,/:;=@").contains b
    | .user => !(utf8 "$&+,;=").contains b
    | .host | .zone => !(utf8 "!$&'()*+,;=:[]<>\"").contains b
    | .query => true
    | .fragment => !(utf8 "$&+,/:;=?@!()*").contains b

/-- A hexadecimal digit, in capital letters. -/
def hexDigit (n : Nat) : UInt8 :=
  (if n < 10 then 48 + n else 55 + n).toUInt8

/-- A byte of a part that is written. -/
def escapeByte (part : UrlPart) (b : UInt8) : Text :=
  if part.escapes b then [37, hexDigit (b.toNat / 16), hexDigit (b.toNat % 16)] else [b]

/-- A part as it is written. -/
def escape (part : UrlPart) (t : Text) : Text :=
  t.flatMap part.escapeByte

/-- Whether the escape of a byte may stand in a part. In a host only bytes beyond the basic alphabet
and the percent sign may be escaped; in its zone also a space and what could stand unescaped. -/
def allowsEscape (part : UrlPart) (b : UInt8) : Bool :=
  match part with
  | .host => 0x80 ≤ b || b == 37
  | .zone => b == 37 || b == 32 || !part.escapes b
  | _ => true

/-- Whether a byte may stand unescaped in a part. -/
def allowsByte (part : UrlPart) (b : UInt8) : Bool :=
  match part with
  | .host | .zone => 0x80 ≤ b || !part.escapes b
  | _ => true

/-- Reads a part; in a query a plus sign is a space. -/
def unescape (part : UrlPart) : Text → Except UrlReason Text
  | [] => .ok []
  | 37 :: a :: b :: t =>
    match Text.hexValue? a, Text.hexValue? b with
    | some x, some y =>
      let c := (x * 16 + y).toUInt8
      if part.allowsEscape c then (unescape part t).map (c :: ·)
      else .error (.badEscape [37, a, b])
    | _, _ => .error (.badEscape [37, a, b])
  | b :: t =>
    if b = 37 then .error (.badEscape (b :: t))
    else if !part.allowsByte b then .error (.badHostCharacter b)
    else (unescape part t).map ((if part = .query ∧ b = 43 then 32 else b) :: ·)

end UrlPart

/-- Text in a part of an address: what it stands for, and how it was written if that is not the
usual way. -/
structure UrlText where
  decoded : Text := []
  written : Option Text := none
deriving DecidableEq, Repr

namespace UrlText

/-- Reads a part. -/
def read (part : UrlPart) (t : Text) : Except UrlReason UrlText :=
  (part.unescape t).map fun decoded =>
    ⟨decoded, if part.escape decoded = t then none else some t⟩

/-- Whether a part may be sent as it was written. -/
def isSendable (part : UrlPart) (t : Text) : Bool :=
  t.all fun b => (utf8 "!$&'()*+,;=:@[]%").contains b || !part.escapes b

/-- The part as it is sent. -/
def write (part : UrlPart) (p : UrlText) : Text :=
  match p.written with
  | some t => if isSendable part t then t else part.escape p.decoded
  | none => part.escape p.decoded

/-- The text that routes are matched against: as it was written if that is not the usual way. -/
def routed (p : UrlText) : Text :=
  p.written.getD p.decoded

end UrlText

end SyntaxPlayground
