import SyntaxPlayground.Configuration
import SyntaxPlayground.Text.Integer
import SyntaxPlayground.Text.Quoted

/-!
# Flags

The arguments of a command are words and flags in any order. A flag has a long name, `--depth`, and
perhaps a letter, `-f`. Its value is written after an equals sign, or is the next argument; a letter
may have its value right behind it, and letters that need none can be run together. After `--`
everything is a word, and `-` is one.

A flag acts on the settings of its command, a type of the caller's choice.
-/

namespace SyntaxPlayground

/-- Why a flag does not take a value. -/
inductive ValueError where
  | notTruth (value : Text)
  | notInteger (value : Text) (e : NumberError)
deriving DecidableEq, Repr

namespace ValueError

/-- The text shown for the error. -/
def message : ValueError → Text
  | notTruth value =>
    utf8 "strconv.ParseBool: parsing " ++ value.quoted ++ utf8 ": " ++ NumberError.malformed.message
  | notInteger value e =>
    utf8 "strconv.ParseInt: parsing " ++ value.quoted ++ utf8 ": " ++ e.message

end ValueError

/-- What is wrong with the flags of a command. -/
inductive FlagError where
  /-- Two hyphens without a name behind them. -/
  | noName (written : Text)
  | unknownName (name : Text)
  /-- A letter that is no flag, with what stood from there on. -/
  | unknownLetter (letter : UInt8) (cluster : Text)
  | nameWithoutValue (name : Text)
  | letterWithoutValue (letter : UInt8)
  | badValue (title value : Text) (e : ValueError)
deriving DecidableEq, Repr

namespace FlagError

/-- A letter as messages show it: one beyond ASCII by the first byte of its encoding. -/
def shownLetter (letter : UInt8) : Text :=
  Text.quotedScalar ((encodeScalar letter.toNat).headD letter).toNat

/-- The text shown for the error. -/
def message : FlagError → Text
  | noName written => utf8 "bad flag syntax: " ++ written
  | unknownName name => utf8 "unknown flag: --" ++ name
  | unknownLetter letter cluster =>
    utf8 "unknown shorthand flag: " ++ shownLetter letter ++ utf8 " in -" ++ cluster
  | nameWithoutValue name => utf8 "flag needs an argument: --" ++ name
  | letterWithoutValue letter =>
    utf8 "flag needs an argument: " ++ shownLetter letter ++ utf8 " in -" ++ [letter]
  | badValue title value e =>
    utf8 "invalid argument " ++ value.quoted ++ utf8 " for " ++ title.quoted ++ utf8 " flag: " ++
      e.message

end FlagError

/-- A flag that changes settings of type `σ`. -/
structure Flag (σ : Type) where
  name : Text
  letter : Option UInt8 := none
  /-- The value that the flag has when none is written; without one, the next argument is taken. -/
  implied : Option Text := none
  set : Text → σ → Except ValueError σ

namespace Flag

variable {σ : Type}

/-- A flag that takes any text. -/
def text (name : Text) (letter : Option UInt8) (put : Text → σ → σ) : Flag σ :=
  { name, letter, set := fun value s => .ok (put value s) }

/-- A flag that takes an integer. -/
def integer (name : Text) (put : Int → σ → σ) : Flag σ :=
  { name
    set := fun value s =>
      match value.readInteger with
      | .ok n => .ok (put n s)
      | .error e => .error (.notInteger value e) }

/-- A flag that is turned on by its name alone. -/
def switch (name : Text) (letter : Option UInt8) (put : Bool → σ → σ) : Flag σ :=
  { name, letter
    implied := some (utf8 "true")
    set := fun value s =>
      match readBool? value with
      | some b => .ok (put b s)
      | none => .error (.notTruth value) }

/-- How messages name the flag. -/
def title (f : Flag σ) : Text :=
  match f.letter with
  | some letter => [45, letter] ++ utf8 ", --" ++ f.name
  | none => utf8 "--" ++ f.name

/-- Gives the flag a value. -/
def apply (f : Flag σ) (value : Text) (s : σ) : Except FlagError σ :=
  match f.set value s with
  | .ok s => .ok s
  | .error e => .error (.badValue f.title value e)

/-! ## One argument -/

/-- What an argument comes to. -/
inductive Effect (σ : Type) where
  /-- It holds no flag. -/
  | word
  | settled (s : σ)
  /-- The next argument is the value of the flag; it is an error if there is none. -/
  | awaits (f : Flag σ) (s : σ) (ifMissing : FlagError)

/-- Reads `--name` or `--name=value`; `body` is what follows the hyphens. -/
def readName (flags : List (Flag σ)) (body : Text) (s : σ) : Except FlagError (Effect σ) :=
  let (name, value) : Text × Option Text :=
    match body.cutByte? 61 with
    | some (name, value) => (name, some value)
    | none => (body, none)
  if name = [] ∨ name.head? = some 45 then .error (.noName (utf8 "--" ++ body))
  else
    match flags.find? (·.name == name) with
    | none => .error (.unknownName name)
    | some f =>
      match value, f.implied with
      | some v, _ | none, some v => (f.apply v s).map .settled
      | none, none => .ok (.awaits f s (.nameWithoutValue name))

/-- Letters that belong to a test runner are passed over. -/
def runnerMark : Text := utf8 "test."

/-- Reads the letters after a single hyphen. -/
def readLetters (flags : List (Flag σ)) : Text → σ → Except FlagError (Effect σ)
  | [], s => .ok (.settled s)
  | c :: rest, s =>
    if runnerMark.isPrefixOf (c :: rest) then .ok (.settled s)
    else
      match flags.find? (·.letter == some c) with
      | none => .error (.unknownLetter c (c :: rest))
      | some f =>
        match rest, f.implied with
        | 61 :: b :: value, _ => (f.apply (b :: value) s).map .settled
        | rest, some v =>
          match f.apply v s with
          | .ok s => readLetters flags rest s
          | .error e => .error e
        | [], none => .ok (.awaits f s (.letterWithoutValue c))
        | rest, none => (f.apply rest s).map .settled

/-- Reads an argument other than `--`. -/
def readArgument (flags : List (Flag σ)) (a : Text) (s : σ) : Except FlagError (Effect σ) :=
  match a with
  | 45 :: 45 :: body => readName flags body s
  | 45 :: c :: letters => readLetters flags (c :: letters) s
  | _ => .ok .word

/-! ## All arguments -/

/-- What the arguments of a command say. -/
structure Arguments (σ : Type) where
  settings : σ
  words : List Text := []

/-- Reads the arguments of a command that starts from the settings `s`. -/
def readAll (flags : List (Flag σ)) : List Text → σ → Except FlagError (Arguments σ)
  | [], s => .ok { settings := s }
  | a :: rest, s =>
    if a = [45, 45] then .ok { settings := s, words := rest }
    else
      match readArgument flags a s, rest with
      | .error e, _ => .error e
      | .ok .word, rest => (readAll flags rest s).map fun r => { r with words := a :: r.words }
      | .ok (.settled s), rest => readAll flags rest s
      | .ok (.awaits _ _ missing), [] => .error missing
      | .ok (.awaits f s _), value :: rest =>
        match f.apply value s with
        | .ok s => readAll flags rest s
        | .error e => .error e

end Flag

end SyntaxPlayground
