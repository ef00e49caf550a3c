import SyntaxPlayground.Json.Basic

/-!
# Reading JSON

The reader takes a text byte by byte. Its state says what may come next and which arrays and
objects are open. A value is complete at its last byte, except for a number: that is complete only
when the byte after it, or the end of the text, has been seen.

Strings may not hold raw control characters. In what they stand for, a lone surrogate and a byte
that is no part of a character become the replacement character.
-/

namespace SyntaxPlayground

namespace JsonReader

/-- White space between the parts of a value. -/
def isSpace (b : UInt8) : Bool :=
  b == 32 || b == 9 || b == 13 || b == 10

/-- An array or object that is still open, its newest member first. -/
inductive Frame where
  | array (items : List JsonValue)
  /-- The key is the one whose value is being read. -/
  | object (fields : List (Text × JsonValue)) (key : Text)
deriving Inhabited

/-- What may come next between two parts. -/
inductive Expected where
  | value
  | valueOrClose
  | key
  | keyOrClose
  | colon
  | separator
deriving DecidableEq, Repr

/-- Where the reader is inside a string. -/
inductive StringPhase where
  | plain
  | escape
  /-- After `\u`: the hexadecimal digits still to come. -/
  | code (left : Nat)
deriving DecidableEq, Repr

/-- Where the reader is inside a number. -/
inductive NumberPhase where
  | sign
  | zero
  | whole
  | point
  | fraction
  | exponent
  | exponentSign
  | exponentDigits
deriving DecidableEq, Repr

/-- What the reader is in the middle of. -/
inductive State where
  | between (expected : Expected) (stack : List Frame)
  /-- The bytes read so far, newest first, still escaped. -/
  | inString (phase : StringPhase) (raw : Text) (isKey : Bool) (stack : List Frame)
  | inNumber (phase : NumberPhase) (raw : Text) (stack : List Frame)
  /-- In `true`, `false` or `null`: the letters still to come. -/
  | inWord (rest : Text) (value : JsonValue) (stack : List Frame)
deriving Inhabited

/-- What comes of reading one byte. -/
inductive Step where
  | more (s : State)
  /-- The value is complete; `used` tells whether the byte belongs to it. -/
  | done (value : JsonValue) (used : Bool)
  | wrong
deriving Inhabited

/-- How many arrays and objects may be open. -/
def depthLimit : Nat := 10000

/-! ## Strings -/

/-- The number that four hexadecimal digits stand for. -/
def code? (a b c d : UInt8) : Option Nat :=
  match Text.hexValue? a, Text.hexValue? b, Text.hexValue? c, Text.hexValue? d with
  | some a, some b, some c, some d => some (a * 4096 + b * 256 + c * 16 + d)
  | _, _, _, _ => none

/-- What a letter after a backslash stands for. -/
def escaped (b : UInt8) : UInt8 :=
  match b with
  | 98 => 8
  | 102 => 12
  | 110 => 10
  | 114 => 13
  | 116 => 9
  | b => b

/-- Whether a letter may follow a backslash, apart from `u`. -/
def isEscape (b : UInt8) : Bool :=
  b == 34 || b == 92 || b == 47 || b == 98 || b == 102 || b == 110 || b == 114 || b == 116

/-- The first half of a surrogate pair. -/
def isHighSurrogate (c : Nat) : Bool :=
  0xD800 ≤ c && c ≤ 0xDBFF

/-- The second half of a surrogate pair. -/
def isLowSurrogate (c : Nat) : Bool :=
  0xDC00 ≤ c && c ≤ 0xDFFF

/-- Puts bytes in front of a reversed text. -/
def pushAll (acc : Text) (t : Text) : Text :=
  t.foldl (fun acc b => b :: acc) acc

/-- Replaces the escapes of a string. `high` is the first half of a surrogate pair that was just
read, whose other half may follow. -/
def unescape (high : Option Nat) (acc : Text) : Text → Text
  | 92 :: 117 :: a :: b :: c :: d :: t =>
    let code := (code? a b c d).getD replacementScalar
    match high with
    | some h =>
      if isLowSurrogate code then
        unescape none (pushAll acc (encodeScalar (0x10000 + (h - 0xD800) * 0x400 + (code - 0xDC00)))) t
      else
        let acc := pushAll acc (encodeScalar replacementScalar)
        if isHighSurrogate code then unescape (some code) acc t
        else unescape none (pushAll acc (encodeScalar code)) t
    | none =>
      if isHighSurrogate code then unescape (some code) acc t
      else unescape none (pushAll acc (encodeScalar code)) t
  | 92 :: b :: t =>
    let acc := if high.isSome then pushAll acc (encodeScalar replacementScalar) else acc
    unescape none (escaped b :: acc) t
  | b :: t =>
    let acc := if high.isSome then pushAll acc (encodeScalar replacementScalar) else acc
    unescape none (b :: acc) t
  | [] =>
    (if high.isSome then pushAll acc (encodeScalar replacementScalar) else acc).reverse

/-- What the bytes between the quotes of a string stand for. -/
def stringValue (raw : Text) : Text :=
  let t : Text := unescape none [] raw
  if t.all (· < 0x80) then t else t.repaired

/-! ## Steps -/

/-- A value inside `stack` is complete. -/
def attach (v : JsonValue) : List Frame → Step
  | [] => .done v true
  | .array items :: stack => .more (.between .separator (.array (v :: items) :: stack))
  | .object fields key :: stack =>
    .more (.between .separator (.object ((key, v) :: fields) key :: stack))

/-- Opens an array or object. -/
def openBracket (frame : Frame) (expected : Expected) (stack : List Frame) : Step :=
  if stack.length < depthLimit then .more (.between expected (frame :: stack)) else .wrong

/-- The first byte of a value. -/
def beginValue (b : UInt8) (stack : List Frame) : Step :=
  if b = 123 then openBracket (.object [] []) .keyOrClose stack
  else if b = 91 then openBracket (.array []) .valueOrClose stack
  else if b = 34 then .more (.inString .plain [] false stack)
  else if b = 45 then .more (.inNumber .sign [b] stack)
  else if b = 48 then .more (.inNumber .zero [b] stack)
  else if 49 ≤ b ∧ b ≤ 57 then .more (.inNumber .whole [b] stack)
  else if b = 116 then .more (.inWord (utf8 "rue") (.bool true) stack)
  else if b = 102 then .more (.inWord (utf8 "alse") (.bool false) stack)
  else if b = 110 then .more (.inWord (utf8 "ull") .null stack)
  else .wrong

/-- A byte after a complete member of an array or object. -/
def separatorStep (b : UInt8) (stack : List Frame) : Step :=
  match stack with
  | .array items :: above =>
    if b = 44 then .more (.between .value stack)
    else if b = 93 then attach (.array items.reverse) above
    else .wrong
  | .object fields _ :: above =>
    if b = 44 then .more (.between .key stack)
    else if b = 125 then attach (.object fields.reverse) above
    else .wrong
  | [] => .wrong

/-- A byte between two parts. -/
def betweenStep (b : UInt8) (expected : Expected) (stack : List Frame) : Step :=
  if isSpace b then .more (.between expected stack)
  else
    match expected with
    | .value => beginValue b stack
    | .valueOrClose => if b = 93 then separatorStep b stack else beginValue b stack
    | .key => if b = 34 then .more (.inString .plain [] true stack) else .wrong
    | .keyOrClose =>
      if b = 125 then separatorStep b stack
      else if b = 34 then .more (.inString .plain [] true stack)
      else .wrong
    | .colon => if b = 58 then .more (.between .value stack) else .wrong
    | .separator => separatorStep b stack

/-- A string is complete: the key of a field, or a value. -/
def endString (raw : Text) (isKey : Bool) (stack : List Frame) : Step :=
  let t := stringValue raw.reverse
  match isKey, stack with
  | true, .object fields _ :: above => .more (.between .colon (.object fields t :: above))
  | _, stack => attach (.string t) stack

/-- A byte inside a string. -/
def stringStep (b : UInt8) (phase : StringPhase) (raw : Text) (isKey : Bool)
    (stack : List Frame) : Step :=
  match phase with
  | .plain =>
    if b = 34 then endString raw isKey stack
    else if b = 92 then .more (.inString .escape (b :: raw) isKey stack)
    else if b < 32 then .wrong
    else .more (.inString .plain (b :: raw) isKey stack)
  | .escape =>
    if b = 117 then .more (.inString (.code 4) (b :: raw) isKey stack)
    else if isEscape b then .more (.inString .plain (b :: raw) isKey stack)
    else .wrong
  | .code left =>
    if (Text.hexValue? b).isSome then
      .more (.inString (if left ≤ 1 then .plain else .code (left - 1)) (b :: raw) isKey stack)
    else .wrong

namespace NumberPhase

/-- Whether a number may end here. -/
def mayEnd : NumberPhase → Bool
  | zero | whole | fraction | exponentDigits => true
  | _ => false

/-- Where a further byte of the number leads, if it can be one. -/
def next? (b : UInt8) : NumberPhase → Option NumberPhase
  | sign => if b = 48 then some zero else if Text.isDigit b then some whole else none
  | zero => if b = 46 then some point else if b = 101 ∨ b = 69 then some exponent else none
  | whole =>
    if Text.isDigit b then some whole
    else if b = 46 then some point
    else if b = 101 ∨ b = 69 then some exponent
    else none
  | point => if Text.isDigit b then some fraction else none
  | fraction =>
    if Text.isDigit b then some fraction
    else if b = 101 ∨ b = 69 then some exponent
    else none
  | exponent =>
    if b = 43 ∨ b = 45 then some exponentSign
    else if Text.isDigit b then some exponentDigits
    else none
  | exponentSign | exponentDigits => if Text.isDigit b then some exponentDigits else none

end NumberPhase

/-- A byte inside or right after a number. -/
def numberStep (b : UInt8) (phase : NumberPhase) (raw : Text) (stack : List Frame) : Step :=
  match phase.next? b with
  | some phase => .more (.inNumber phase (b :: raw) stack)
  | none =>
    if phase.mayEnd then
      match attach (.number raw.reverse) stack with
      | .more (.between expected stack) => betweenStep b expected stack
      | _ => .done (.number raw.reverse) false
    else .wrong

/-- Reads one byte. -/
def step (s : State) (b : UInt8) : Step :=
  match s with
  | .between expected stack => betweenStep b expected stack
  | .inString phase raw isKey stack => stringStep b phase raw isKey stack
  | .inNumber phase raw stack => numberStep b phase raw stack
  | .inWord rest value stack =>
    match rest with
    | [] => .wrong
    | [c] => if b = c then attach value stack else .wrong
    | c :: d :: rest => if b = c then .more (.inWord (d :: rest) value stack) else .wrong

/-- Before the first byte. -/
def start : State := .between .value []

/-- The value that ends with the text, if one does. -/
def atEnd? : State → Option JsonValue
  | .inNumber phase raw [] => if phase.mayEnd then some (.number raw.reverse) else none
  | _ => none

/-- What comes of reading a text. -/
inductive Outcome where
  /-- A complete value and what follows it. -/
  | value (v : JsonValue) (rest : Text)
  /-- The text ended before a value was complete. -/
  | unfinished (s : State)
  /-- A byte that cannot stand where it does. -/
  | wrong
deriving Inhabited

/-- Reads the first value of a text. -/
def run (s : State) : Text → Outcome
  | [] => .unfinished s
  | b :: t =>
    match step s b with
    | .more s => run s t
    | .done v used => .value v (if used then t else b :: t)
    | .wrong => .wrong

end JsonReader

namespace JsonValue

/-- The value that the whole text stands for; white space around it does not count. -/
def ofText? (t : Text) : Option JsonValue :=
  match JsonReader.run JsonReader.start t with
  | .value v rest => if rest.all JsonReader.isSpace then some v else none
  | .unfinished s => JsonReader.atEnd? s
  | .wrong => none

/-- Why the first value of a body could not be read. -/
inductive BodyError where
  /-- The body has more bytes than may be read. -/
  | tooLong
  /-- There is nothing but white space. -/
  | empty
  | malformed
deriving DecidableEq, Repr

/-- The first value of a body, of which only `limit` bytes may be read. A value that is complete or
wrong within them decides; what follows it does not count. A comma or colon in front of the value is
wrong, but this is told only with the byte that follows it. -/
def ofBody (limit : Nat) (t : Text) : Except BodyError JsonValue :=
  let ended (e : BodyError) : BodyError := if limit < t.length then .tooLong else e
  let seen := t.take limit
  match seen.dropWhile JsonReader.isSpace with
  | [] => .error (ended .empty)
  | 44 :: rest | 58 :: rest =>
    .error (if rest.all JsonReader.isSpace then ended .malformed else .malformed)
  | seen =>
    match JsonReader.run JsonReader.start seen with
    | .value v _ => .ok v
    | .wrong => .error .malformed
    | .unfinished s =>
      if limit < t.length then .error .tooLong
      else
        match JsonReader.atEnd? s with
        | some v => .ok v
        | none => .error .malformed

end JsonValue

end SyntaxPlayground
