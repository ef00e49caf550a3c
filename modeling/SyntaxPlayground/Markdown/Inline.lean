import SyntaxPlayground.Markdown.Link
import SyntaxPlayground.Markdown.Tag
import SyntaxPlayground.Text.Blank

/-!
# The text of a heading

What a heading says is its text without the marks for emphasis, code and links. Code is put between
two equal runs of backticks. A run of stars or underscores may open emphasis, close it, or both,
depending on what stands around it. A label in brackets is a link if something after it says where
it leads, or if a definition has its label. Marks with no counterpart stay in the text. A backslash
before basic punctuation keeps that character from being a mark, and both stay in the text.

The reader goes through the text from left to right and keeps the parts that it has found, newest
first. When a label turns out to be a link, the parts since its bracket become one.
-/

namespace SyntaxPlayground

namespace Markdown

/-- A run of equal marks that may open or close emphasis. -/
structure Run where
  mark : UInt8
  /-- How many marks are left. -/
  left : Nat
  /-- How many marks there were. -/
  length : Nat
  opens : Bool
  closes : Bool
deriving DecidableEq, Repr

/-- The opening bracket of a label, with the bytes that come before it and those up to its end. -/
structure Bracket where
  isImage : Bool
  start : Nat
  stop : Nat
deriving DecidableEq, Repr

/-- A part of a heading. -/
inductive Part where
  | text (t : Text)
  | run (r : Run)
  | bracket (b : Bracket)
  /-- A link or an image with what it says, and whether there is a link in it. -/
  | link (t : Text) (hasLink : Bool)
deriving DecidableEq, Repr

namespace Part

/-- What a part says when no further mark is taken off it. -/
def shown : Part → Text
  | text t | link t _ => t
  | run r => List.replicate r.left r.mark
  | bracket b => if b.isImage then [33, 91] else [91]

/-- Whether there is a link in the part. -/
def hasLink : Part → Bool
  | link _ b => b
  | _ => false

end Part

/-! ## Emphasis -/

/-- Whether a run may open and whether it may close emphasis, by the characters around it. -/
def flanks (mark : UInt8) (before after : Nat) : Bool × Bool :=
  let left := !isBlank after && (!isPunctuation after || isBlank before || isPunctuation before)
  let right := !isBlank before && (!isPunctuation before || isBlank after || isPunctuation after)
  if mark = 95 then
    (left && (!right || isPunctuation before), right && (!left || isPunctuation after))
  else (left, right)

/-- How many marks a closing run takes off an opening one: two, one, or none if the two do not fit
each other. -/
def consumed (opener closer : Run) : Nat :=
  if !opener.opens || opener.mark != closer.mark || opener.left == 0 then 0
  else if (opener.closes || closer.opens) && (opener.length + closer.length) % 3 == 0 &&
      closer.length % 3 != 0 then 0
  else if 2 ≤ opener.left && 2 ≤ closer.left then 2
  else 1

/-- Matches a closing run with the nearest opening run before it (`done`, nearest first). The runs
between them can no longer be matched. Answers how many marks were taken. -/
def matchOpener? (closer : Run) : List Part → Option (Nat × List Part)
  | [] => none
  | .run r :: done =>
    match consumed r closer with
    | 0 =>
      (matchOpener? closer done).map fun (n, done) => (n, .text (Part.run r).shown :: done)
    | n => some (n, .run { r with left := r.left - n } :: done)
  | p :: done => (matchOpener? closer done).map fun (n, done) => (n, p :: done)

/-- Matches a closing run as often as it can be; `fuel` is at least the number of its marks. -/
def closeRun : Nat → Run → List Part → List Part
  | 0, r, done => .run r :: done
  | fuel + 1, r, done =>
    if r.left = 0 then done
    else
      match matchOpener? r done with
      | none => .run r :: done
      | some (n, done) => closeRun fuel { r with left := r.left - n } done

/-- Takes the matched marks off the parts; `done` holds the parts dealt with, nearest first. -/
def matchRuns (done : List Part) : List Part → List Part
  | [] => done.reverse
  | .run r :: parts =>
    if r.closes then matchRuns (closeRun r.left r done) parts else matchRuns (.run r :: done) parts
  | p :: parts => matchRuns (p :: done) parts

/-- What some parts, newest first, say together. -/
def shownText (parts : List Part) : Text :=
  (matchRuns [] parts.reverse).flatMap Part.shown

/-! ## The reader -/

/-- Where the reader is. -/
structure Reading where
  /-- The bytes read, nearest first, and their number. -/
  before : Text := []
  offset : Nat := 0
  rest : Text
  /-- The parts found, newest first. -/
  parts : List Part := []
  /-- Whether the last byte was a backslash that keeps the next one from being a mark. -/
  escaped : Bool := false
deriving DecidableEq, Repr

namespace Reading

/-- Goes on by `n` bytes. -/
def advance (r : Reading) : Nat → Reading
  | 0 => r
  | n + 1 =>
    match r.rest with
    | [] => r
    | b :: t => { r with before := b :: r.before, offset := r.offset + 1, rest := t }.advance n

/-- Goes on by `n` bytes, which make up a part. -/
def push (r : Reading) (part : Part) (n : Nat) : Reading :=
  { r.advance n with parts := part :: r.parts }

/-- The character before, which is a newline at the beginning. -/
def characterBefore (r : Reading) : Nat :=
  let continuation := r.before.takeWhile Text.isContinuation
  match r.before.drop continuation.length with
  | [] => 10
  | b :: _ => ((Text.pieces (b :: continuation.reverse.take 3)).head?.map Piece.scalar).getD 10

/-- The character after a run of marks; the mark itself if there is a byte that begins none. -/
def characterAfter (mark : UInt8) (rest : Text) : Nat :=
  match rest with
  | [] => 32
  | b :: _ =>
    if Text.isContinuation b then mark.toNat
    else ((Text.pieces (rest.take 4)).head?.map Piece.scalar).getD 32

/-! ### Code -/

/-- The text up to the next run of exactly `n` backticks. The last bytes seen were `ticks`
backticks. -/
def code? (n ticks : Nat) (acc : Text) : Text → Option Text
  | [] => if ticks = n then some (acc.drop n).reverse else none
  | b :: t =>
    if b = 96 then code? n (ticks + 1) (b :: acc) t
    else if ticks = n then some (acc.drop n).reverse
    else code? n 0 (b :: acc) t

/-- What code says: one space is taken off at both ends if there is one at both and something else
besides. -/
def codeText (t : Text) : Text :=
  let isEdge (b : UInt8) := b == 32 || b == 10
  if onlySpace t then t
  else if t.head?.any isEdge && t.getLast?.any isEdge then t.tail.dropLast
  else t

/-- Reads code, or the backticks alone if no run closes it. -/
def readCode (r : Reading) : Reading :=
  let ticks := r.rest.takeWhile (· == 96)
  let n := ticks.length
  match code? n 0 [] (r.rest.drop n) with
  | some code => r.push (.text (codeText code)) (n + code.length + n)
  | none => r.push (.text ticks) n

/-! ### Links -/

/-- The parts since the last bracket, newest first, the bracket, and the parts before it. -/
def splitBracket? (inner : List Part) : List Part → Option (List Part × Bracket × List Part)
  | [] => none
  | .bracket b :: outer => some (inner.reverse, b, outer)
  | p :: outer => splitBracket? (p :: inner) outer

/-- The distance between the first open bracket and the end of the last one. -/
def bracketSpan (parts : List Part) : Nat :=
  let brackets := parts.filterMap fun
    | .bracket b => some b
    | _ => none
  match brackets.head?, brackets.getLast? with
  | some last, some first => last.stop - first.start
  | _, _ => 0

/-- The length of what follows a label if it is a link: `label` is its text, `t` what follows its
closing bracket, and `labels` are those that are defined. -/
def linkLength? (labels : List Text) (label t : Text) : Option Nat :=
  let defined (l : Text) : Bool := l.length ≤ labelLimit && labels.contains (labelKey l)
  let shortcut? := if defined label then some 0 else none
  match t with
  | 40 :: rest =>
    match targetLength? rest with
    | some n => some (1 + n)
    | none => shortcut?
  | 91 :: rest =>
    match closure 91 93 [] rest with
    | .error _ => shortcut?
    | .ok (reference, _) =>
      if defined (if onlySpace reference then label else reference) then
        some (reference.length + 2)
      else none
  | _ => shortcut?

/-- Reads a closing bracket. The label is taken for a link if it can be one; otherwise its opening
bracket is text, and the closing bracket still has to be read. -/
def readClosing (labels : List Text) (r : Reading) : Except Reading Reading :=
  match splitBracket? [] r.parts with
  | none => .error r
  | some (inner, bracket, outer) =>
    let failed := { r with parts := inner ++ .text (Part.bracket bracket).shown :: outer }
    let nested := inner.any Part.hasLink
    if labelLimit ≤ bracketSpan outer ∨ (!bracket.isImage && nested) then .error failed
    else
      let label : Text := (r.before.take (r.offset - bracket.stop)).reverse
      match linkLength? labels label r.rest.tail with
      | none => .error failed
      | some n =>
        let part := .link (shownText inner) (!bracket.isImage || nested)
        .ok ({ r with parts := outer }.push part (1 + n))

/-! ### Addresses -/

/-- A byte of the first part of a mail address. -/
def isMailByte (b : UInt8) : Bool :=
  Text.isLetter b || Text.isDigit b || (utf8 ".!#$%&'*+/=?^_`\x7b|\x7d~-").contains b

/-- The longest part of a host name that a text begins with: letters, digits and hyphens, but no
hyphen at either end. -/
def hostPart (t : Text) : Text :=
  if t.head? = some 45 then []
  else Text.dropTrailing (· == 45) ((t.takeWhile isTagByte).take 63)

/-- The length of the further parts of a host name; `fuel` is at least their number. -/
def hostLength : Nat → Text → Nat
  | 0, _ => 0
  | fuel + 1, t =>
    match t with
    | 46 :: rest =>
      match (hostPart rest).length with
      | 0 => 0
      | n => 1 + n + hostLength fuel (rest.drop n)
    | _ => 0

/-- The length of the mail address that a text begins with. -/
def mailLength? (t : Text) : Option Nat :=
  let name := (t.takeWhile isMailByte).length
  match t.drop name with
  | 64 :: host =>
    let n := (hostPart host).length
    if name = 0 ∨ n = 0 then none
    else some (name + 1 + n + hostLength host.length (host.drop n))
  | _ => none

/-- The length of the address with a scheme that a text begins with. -/
def addressLength? (t : Text) : Option Nat :=
  let scheme := (t.takeWhile fun b =>
    Text.isLetter b || Text.isDigit b || b == 43 || b == 45 || b == 46).length
  match t.drop scheme with
  | 58 :: rest =>
    if t.head?.any Text.isLetter && 2 ≤ scheme && scheme ≤ 33 then
      some (scheme + 1 + (rest.takeWhile fun b => 32 < b && b != 60 && b != 62).length)
    else none
  | _ => none

/-- Reads an address in angle brackets, or else a tag or the like. -/
def readAngle? (r : Reading) : Option Reading :=
  let t := r.rest.tail
  let address? := ((mailLength? t).or (addressLength? t)).filter fun n =>
    (t.drop n).head? == some 62
  match address? with
  | some n => some (r.push (.text (t.take n)) (n + 2))
  | none => (unitLength? r.rest).map fun n => r.push (.text (r.rest.take n)) n

/-! ### Marks -/

/-- Reads a run of stars or underscores. -/
def readRun (r : Reading) (mark : UInt8) : Reading :=
  let length := (r.rest.takeWhile (· == mark)).length
  let rest := r.rest.drop length
  let (opens, closes) := flanks mark r.characterBefore (characterAfter mark rest)
  r.push (.run ⟨mark, length, length, opens, closes⟩) length

/-- Reads an opening bracket of the given length. -/
def readOpening (r : Reading) (isImage : Bool) (length : Nat) : Reading :=
  r.push (.bracket ⟨isImage, r.offset, r.offset + length⟩) length

/-- Whether a byte may begin something other than text. -/
def isTrigger (b : UInt8) : Bool :=
  b == 96 || b == 33 || b == 91 || b == 93 || b == 60 || b == 42 || b == 95

/-- Reads what begins with the given byte; an error if that is text after all. -/
def readMark (labels : List Text) (r : Reading) (b : UInt8) : Except Reading Reading :=
  if b = 96 then .ok r.readCode
  else if b = 33 then
    if r.rest.tail.head? = some 91 then .ok (r.readOpening true 2) else .error r
  else if b = 91 then .ok (r.readOpening false 1)
  else if b = 93 then r.readClosing labels
  else if b = 60 then
    match r.readAngle? with
    | some s => .ok s
    | none => .error r
  else .ok (r.readRun b)

/-! ### Lines -/

/-- How a line ends. -/
inductive LineEnd where
  /-- With a newline that is part of the text. -/
  | soft
  /-- With spaces that stand for a break. -/
  | spaces
  /-- With a backslash that stands for a break. -/
  | backslash
  /-- With the text. -/
  | none
deriving DecidableEq, Repr

/-- How a line ends, and how many bytes come before its end. -/
def lineEnd (line : Text) : LineEnd × Nat :=
  let n := line.length
  match line.reverse with
  | 10 :: 92 :: t => if t.head? = some 92 then (.soft, n) else (.backslash, n - 2)
  | 10 :: 13 :: 92 :: t => if t.head? = some 92 then (.soft, n) else (.backslash, n - 3)
  | 10 :: 32 :: 32 :: _ => (.spaces, n - 3)
  | 10 :: 13 :: 32 :: 32 :: _ => (.spaces, n - 4)
  | 10 :: _ => (.soft, n)
  | _ => (.none, n)

/-- What is left of the line, with its newline. -/
def line (r : Reading) : Text :=
  let body := r.rest.takeWhile (· != 10)
  if (r.rest.drop body.length).isEmpty then body else body ++ [10]

/-- Adds text, given newest byte first. -/
def addText (r : Reading) (pending : Text) : Reading :=
  if pending.isEmpty then r else { r with parts := .text pending.reverse :: r.parts }

/-- Ends the line, of which the bytes `pending`, newest first, are text. -/
def endLine (r : Reading) (ending : LineEnd) (pending : Text) : Reading :=
  let kept := if ending = .backslash then pending else pending.dropWhile isSpace
  let r := r.addText (if ending = .soft then 10 :: kept else kept)
  r.advance r.line.length

/-- Where the reader is on a line. -/
structure Span where
  ending : LineEnd
  /-- How many bytes of the line are still to be looked at. -/
  left : Nat
  /-- Whether nothing has been looked at since the last part that is no text. -/
  first : Bool := true
  /-- The bytes that are text since then, newest first. -/
  pending : Text := []
deriving DecidableEq, Repr

/-- The line that the reader is on. -/
def span (r : Reading) : Span :=
  let (ending, left) := lineEnd r.line
  { ending, left }

/-- One step on a line: a byte of text, or something that is no text. `none` at the end of what is
to be looked at. -/
def step (labels : List Text) (r : Reading) (s : Span) : Option (Reading × Span) :=
  match s.left, r.rest with
  | left + 1, b :: _ =>
    let asText (r : Reading) (pending : Text) : Reading × Span :=
      ({ r.advance 1 with escaped := !r.escaped && b == 92 },
        { s with left, first := false, pending := b :: pending })
    if b = 10 then none
    else if isTrigger b && (!r.escaped || s.first) then
      match (r.addText s.pending).readMark labels b with
      | .error r => some (asText { r with escaped := false } [])
      | .ok r' =>
        let n := r'.offset - r.offset
        some (r', if n ≤ s.left then { ending := s.ending, left := s.left - n } else r'.span)
    else some (asText r s.pending)
  | _, _ => none

/-- Reads the whole text; `fuel` is at least twice its length. -/
def run (labels : List Text) : Nat → Reading → Span → Reading
  | 0, r, _ => r
  | fuel + 1, r, s =>
    match r.step labels s with
    | some (r, s) => run labels fuel r s
    | none =>
      let r := r.endLine s.ending s.pending
      if r.rest.isEmpty then r else run labels fuel r r.span

end Reading

/-- What a heading says, given the labels that are defined. -/
def plainText (labels : List Text) (t : Text) : Text :=
  let start : Reading := { rest := t }
  shownText (start.run labels (2 * t.length) start.span).parts

end Markdown

end SyntaxPlayground
