import SyntaxPlayground.Text.Quoted

/-!
# Network addresses

A host may be a number instead of a name: four decimal fields with dots between them, or eight
hexadecimal groups with colons between them, of which a run of zeros may be left out and the last
two may be written as decimal fields. Only the form of an address matters here, and what is wrong
with a text that has neither form.
-/

namespace SyntaxPlayground

/-- The two forms of a network address. -/
inductive AddressForm where
  | dotted
  | grouped
deriving DecidableEq, Repr

/-- What is wrong with a text that should be a network address. -/
inductive AddressFault where
  | noAddress
  | onlyZone
  | emptyZone
  | leadingZero
  | fieldTooLarge
  | emptyField (rest : Text)
  | tooManyFields
  | badCharacter (rest : Text)
  | tooFewFields
  | longGroup (rest : Text)
  | emptyGroup (rest : Text)
  | fieldsTooEarly (rest : Text)
  | fieldsTooLate (rest : Text)
  | missingColon (rest : Text)
  | endsInColon (rest : Text)
  | secondGap (rest : Text)
  | tooManyGroups (rest : Text)
  | tooFewGroups
  | emptyGap
deriving DecidableEq, Repr

namespace AddressFault

/-- The words for a fault, and the place that it is at if they name one. -/
def words : AddressFault → String × Text
  | noAddress => ("unable to parse IP", [])
  | onlyZone => ("missing IPv6 address", [])
  | emptyZone => ("zone must be a non-empty string", [])
  | leadingZero => ("IPv4 field has octet with leading zero", [])
  | fieldTooLarge => ("IPv4 field has value >255", [])
  | emptyField rest => ("IPv4 field must have at least one digit", rest)
  | tooManyFields => ("IPv4 address too long", [])
  | badCharacter rest => ("unexpected character", rest)
  | tooFewFields => ("IPv4 address too short", [])
  | longGroup rest => ("each group must have 4 or fewer digits", rest)
  | emptyGroup rest => ("each colon-separated field must have at least one digit", rest)
  | fieldsTooEarly rest =>
    ("embedded IPv4 address must replace the final 2 fields of the address", rest)
  | fieldsTooLate rest =>
    ("too many hex fields to fit an embedded IPv4 at the end of the address", rest)
  | missingColon rest => ("unexpected character, want colon", rest)
  | endsInColon rest => ("colon must be followed by more characters", rest)
  | secondGap rest => ("multiple :: in address", rest)
  | tooManyGroups rest => ("trailing garbage after address", rest)
  | tooFewGroups => ("address string too short", [])
  | emptyGap => ("the :: must expand to at least one field of zeros", [])

/-- The text for a fault of the address `t`. -/
def message (t : Text) (f : AddressFault) : Text :=
  let (words, place) := f.words
  utf8 "ParseAddr(" ++ t.quoted ++ utf8 "): " ++ utf8 words ++
    (if place = [] then [] else utf8 " (at " ++ place.quoted ++ utf8 ")")

end AddressFault

namespace NetworkAddress

/-- Checks decimal fields. `done` fields are complete; of the current one `digits` digits with the
value `value` have been read. -/
def checkFields (done digits value : Nat) : Text → Except AddressFault Unit
  | [] => if done < 3 then .error .tooFewFields else .ok ()
  | b :: t =>
    if Text.isDigit b then
      let next := value * 10 + (b.toNat - 48)
      if digits = 1 ∧ value = 0 then .error .leadingZero
      else if 255 < next then .error .fieldTooLarge
      else checkFields done (digits + 1) next t
    else if b = 46 then
      if digits = 0 ∨ t = [] then .error (.emptyField (b :: t))
      else if done = 3 then .error .tooManyFields
      else checkFields (done + 1) 0 0 t
    else .error (.badCharacter (b :: t))

/-- Checks that the groups fill the address: `room` more would fit, and a gap stands for at least
one. -/
def checkRoom (room : Nat) (gap : Bool) : Except AddressFault Unit :=
  if room = 0 then (if gap then .error .emptyGap else .ok ())
  else if gap then .ok ()
  else .error .tooFewGroups

/-- Checks groups. `room` of them still fit; `gap` tells whether zeros have been left out. -/
def checkGroups : Nat → Bool → Text → Except AddressFault Unit
  | 0, gap, t => if t = [] then checkRoom 0 gap else .error (.tooManyGroups t)
  | room + 1, gap, t =>
    let digits := t.takeWhile fun b => (Text.hexValue? b).isSome
    if 4 < digits.length then .error (.longGroup t)
    else if digits = [] then .error (.emptyGroup t)
    else
      match t.drop digits.length with
      | [] => checkRoom room gap
      | 46 :: _ =>
        if !gap ∧ room ≠ 1 then .error (.fieldsTooEarly t)
        else if room = 0 then .error (.fieldsTooLate t)
        else
          match checkFields 0 0 0 t with
          | .error e => .error e
          | .ok () => checkRoom (room - 1) gap
      | [58] => .error (.endsInColon [58])
      | 58 :: 58 :: rest =>
        if gap then .error (.secondGap (58 :: rest))
        else if rest = [] then checkRoom room true
        else checkGroups room true rest
      | 58 :: rest => checkGroups room gap rest
      | rest => .error (.missingColon rest)

/-- Checks an address in groups, whose zone stands behind a percent sign. -/
def checkGrouped (t : Text) : Except AddressFault Unit :=
  let (address, zone) : Text × Option Text :=
    match t.cutByte? 37 with
    | none => (t, none)
    | some (address, zone) => (address, some zone)
  if zone = some [] then .error .emptyZone
  else
    match address with
    | [58, 58] => .ok ()
    | 58 :: 58 :: rest => checkGroups 8 true rest
    | address => checkGroups 8 false address

/-- The form of an address, told by the first dot or colon. -/
def form? (t : Text) : Except AddressFault AddressForm :=
  match t.find? fun b => b == 46 || b == 58 || b == 37 with
  | some 46 => (checkFields 0 0 0 t).map fun _ => .dotted
  | some 58 => (checkGrouped t).map fun _ => .grouped
  | some _ => .error .onlyZone
  | none => .error .noAddress

end NetworkAddress

end SyntaxPlayground
