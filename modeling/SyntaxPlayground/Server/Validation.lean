import SyntaxPlayground.Json.Field
import SyntaxPlayground.Json.Reader
import SyntaxPlayground.Text.Decimal

/-!
# Validation of requests

The fields of a request are checked in order, each against its rules; the first rule that a field
breaks gives a message, and the messages of all fields are shown together.
-/

namespace SyntaxPlayground

/-- A rule for the text of a field. -/
inductive FieldRule where
  | required
  /-- At most so many characters. -/
  | atMost (characters : Nat)
  | oneOf (options : List Text)
deriving DecidableEq, Repr

namespace FieldRule

/-- Whether a text keeps to the rule. -/
def accepts : FieldRule → Text → Bool
  | required, t => !t.isEmpty
  | atMost n, t => t.runeCount ≤ n
  | oneOf options, t => options.contains t

/-- What is said about a field that breaks the rule. -/
def message (field : Text) : FieldRule → Text
  | required => field ++ utf8 " is required"
  | atMost n => field ++ utf8 " must be at most " ++ Text.ofNat n ++ utf8 " characters"
  | oneOf options => field ++ utf8 " must be one of: " ++ Text.join [32] options

end FieldRule

/-- A field of a request: its name, its text and its rules. -/
structure CheckedField where
  name : Text
  text : Text
  rules : List FieldRule
  /-- Whether an empty text is accepted whatever the rules say. -/
  mayBeEmpty : Bool := false
deriving DecidableEq, Repr

namespace CheckedField

/-- What is wrong with a field, if anything. -/
def problem? (f : CheckedField) : Option Text :=
  if f.mayBeEmpty && f.text.isEmpty then none
  else (f.rules.find? fun r => !r.accepts f.text).map (·.message f.name)

end CheckedField

/-- What is wrong with some fields, if anything. -/
def problems? (fields : List CheckedField) : Option Text :=
  match fields.filterMap CheckedField.problem? with
  | [] => none
  | messages => some (Text.join (utf8 "; ") messages)

/-- Why the body of a request is refused. -/
inductive BodyProblem where
  | unreadable (e : JsonValue.BodyError)
  | invalid (message : Text)
  | sourceTooLong (limit : Int)
deriving DecidableEq, Repr

namespace BodyProblem

/-- The text shown for the problem. What the JSON decoder itself says after `invalid JSON` is left
out. -/
def message : BodyProblem → Text
  | unreadable .tooLong => utf8 "request body too large"
  | unreadable .empty => utf8 "request body is empty"
  | unreadable .malformed => utf8 "invalid JSON"
  | invalid m => m
  | sourceTooLong limit => utf8 "source exceeds max size (" ++ Text.ofInt limit ++ utf8 " bytes)"

/-- The status that the problem is answered with. -/
def status : BodyProblem → Nat
  | unreadable .tooLong | sourceTooLong _ => 413
  | _ => 400

end BodyProblem

/-- The kinds of events that requests may name. -/
def eventNames : List Text :=
  [utf8 "mouseenter", utf8 "mouseleave", utf8 "click"]

/-- How many bytes a message may have beyond the largest source, for what surrounds the source. -/
def envelopeBytes : Int := 4096

/-- The number of bytes of a body that are read; 64 bits wide, and none if it wraps around. -/
def bodyLimit (maxSourceBytes : Int) : Nat :=
  (wrapInt64 (maxSourceBytes + envelopeBytes)).toNat

/-- Reads the text fields `names` of a body. -/
def readBody (maxSourceBytes : Int) (names : List Text) (body : Text) :
    Except BodyProblem (List Text) :=
  match JsonValue.ofBody (bodyLimit maxSourceBytes) body with
  | .error e => .error (.unreadable e)
  | .ok v =>
    match v.record?.bind fun fields => names.mapM (JsonValue.textField? fields) with
    | none => .error (.unreadable .malformed)
    | some texts => .ok texts

/-- Checks a source against the limit. -/
def checkSource (maxSourceBytes : Int) (source : Text) : Except BodyProblem Text :=
  if maxSourceBytes < source.length then .error (.sourceTooLong maxSourceBytes) else .ok source

end SyntaxPlayground
