import SyntaxPlayground.Markdown.Line
import SyntaxPlayground.Text.Fold
import SyntaxPlayground.Text.Punctuation

/-!
# Links in a markdown document

A link has a label in brackets and says where it leads, either itself or by naming a definition.
A definition stands at the beginning of a paragraph and is no part of its text. Where links lead
plays no role here: what matters is which texts are links, and which labels are defined.
-/

namespace SyntaxPlayground

namespace Markdown

/-- A punctuation byte, which a backslash keeps from being a mark. -/
def isMark (b : UInt8) : Bool :=
  isBasicPunctuation b.toNat

/-! ## Parts of a link -/

/-- The text up to the mark `closer`, and what follows it. A mark `opener` before it is an error,
and so is the end of the text; with the error comes the text up to there. -/
def closure (opener closer : UInt8) (acc : Text) : Text → Except Text (Text × Text)
  | [] => .error acc.reverse
  | [b] => if b = closer then .ok (acc.reverse, []) else .error (b :: acc).reverse
  | b :: c :: t =>
    if b = 92 ∧ isMark c then closure opener closer (c :: b :: acc) t
    else if b = closer then .ok (acc.reverse, c :: t)
    else if b = opener then .error acc.reverse
    else closure opener closer (b :: acc) (c :: t)

/-- The length of a destination in angle brackets, which ends on its line; `t` is what follows the
opening bracket, which does not count. -/
def angleLength? : Text → Option Nat
  | [] => none
  | [b] => if b = 62 then some 1 else none
  | b :: c :: t =>
    if b = 92 ∧ isMark c then (angleLength? t).map (2 + ·)
    else if b = 62 then some 1
    else if b = 10 then none
    else (angleLength? (c :: t)).map (1 + ·)

/-- The length of a destination without brackets: it ends at white space, or at a closing parenthesis
that it has not opened. -/
def bareLength (opened : Nat) : Text → Nat
  | [] => 0
  | [b] => if isSpace b ∨ (b = 41 ∧ opened = 0) then 0 else 1
  | b :: c :: t =>
    if b = 92 ∧ isMark c then bareLength opened t + 2
    else if b = 40 then bareLength (opened + 1) (c :: t) + 1
    else if b = 41 then
      if opened = 0 then 0 else bareLength (opened - 1) (c :: t) + 1
    else if isSpace b then 0
    else bareLength opened (c :: t) + 1

/-- The length of the destination that a text begins with. -/
def destinationLength? (t : Text) : Option Nat :=
  match t with
  | 60 :: rest => (angleLength? rest).map (1 + ·)
  | t =>
    match bareLength 0 t with
    | 0 => none
    | n => some n

/-- The mark that closes a title opened by the given one; `none` if it opens no title. -/
def titleCloser? (opener : UInt8) : Option UInt8 :=
  if opener = 34 ∨ opener = 39 then some opener
  else if opener = 40 then some 41
  else none

/-- The length of the title that a text begins with. -/
def titleLength? (t : Text) : Option Nat :=
  match t with
  | [] => none
  | opener :: rest =>
    match titleCloser? opener with
    | none => none
    | some closer =>
      match closure opener closer [] rest with
      | .ok (title, _) => some (title.length + 2)
      | .error _ => none

/-- The length of a closing parenthesis with the white space before it. -/
def parenthesisLength? (t : Text) : Option Nat :=
  let space := spaceLength t
  if (t.drop space).head? = some 41 then some (space + 1) else none

/-- The length of where a link leads; `t` is what follows the opening parenthesis. -/
def targetLength? (t : Text) : Option Nat :=
  match parenthesisLength? t with
  | some n => some n
  | none =>
    let space := spaceLength t
    let t := t.drop space
    match destinationLength? t with
    | none => none
    | some destination =>
      let t := t.drop destination
      match parenthesisLength? t with
      | some n => some (space + destination + n)
      | none =>
        let gap := spaceLength t
        let t := t.drop gap
        match titleLength? t with
        | none => none
        | some title =>
          (parenthesisLength? (t.drop title)).map (space + destination + gap + title + ·)

/-! ## Labels -/

/-- How long a label may be. -/
def labelLimit : Nat := 999

/-- Runs of white space as single spaces. -/
def collapseSpaces : Text → Text
  | [] => []
  | [b] => [if isSpace b then 32 else b]
  | b :: c :: t =>
    if isSpace b then
      if isSpace c then collapseSpaces (c :: t) else 32 :: collapseSpaces (c :: t)
    else b :: collapseSpaces (c :: t)

/-- The form in which labels are compared: case and the amount of white space set aside. -/
def labelKey (t : Text) : Text :=
  let isOuter (b : UInt8) : Bool := b == 32 || (9 ≤ b && b ≤ 13)
  let inner : Text := Text.dropTrailing isOuter (t.dropWhile isOuter)
  collapseSpaces inner.folded

/-! ## Definitions -/

/-- A place in the text of a paragraph: the number of the line, and what is left. -/
structure Place where
  line : Nat
  rest : Text
deriving DecidableEq, Repr

namespace Place

/-- The place after `n` bytes. -/
def advance (p : Place) (n : Nat) : Place :=
  ⟨p.line + (p.rest.take n).count 10, p.rest.drop n⟩

/-- The place after white space. -/
def skipSpaces (p : Place) : Place :=
  p.advance (spaceLength p.rest)

/-- Whether nothing but white space is left on the line. -/
def atLineEnd (p : Place) : Bool :=
  onlySpace (p.rest.takeWhile (· != 10))

/-- The beginning of the next line. -/
def nextLine (p : Place) : Place :=
  p.advance ((p.rest.takeWhile (· != 10)).length + 1)

end Place

/-- A definition that was read. -/
structure Definition where
  key : Text
  /-- The lines that it takes away from its paragraph, from `first` up to but without `stop`. -/
  first : Nat
  stop : Nat
  /-- Where reading goes on. -/
  next : Place
deriving DecidableEq, Repr

/-- Reads the title of a definition, without which the definition may be complete; `p` is the place
after the destination, and `first` the line that the definition begins on. -/
def readTitle (key : Text) (first : Nat) (p : Place) : Option Definition :=
  let isComplete := p.atLineEnd
  let space := spaceLength p.rest
  let here := p.advance space
  let plain (next : Place) : Option Definition :=
    if isComplete then some ⟨key, first, p.line + 1, next⟩ else none
  match here.rest with
  | [] => plain here
  | opener :: rest =>
    match titleCloser? opener with
    | none => plain here
    | some closer =>
      if space = 0 then none
      else
        match closure opener closer [] rest with
        | .error seen => plain (here.advance (seen.length + 1)).nextLine
        | .ok (title, _) =>
          let next := here.advance (title.length + 2)
          if next.atLineEnd then some ⟨key, first, next.line + 1, next⟩
          else if isComplete then some ⟨key, first, max p.line (first + 1), next⟩
          else none

/-- Reads a definition at the beginning of a text. -/
def readDefinition (p : Place) : Option Definition :=
  let p := p.skipSpaces
  match p.rest with
  | 91 :: rest =>
    match closure 91 93 [] rest with
    | .ok (label, 58 :: _) =>
      if onlySpace label then none
      else
        let q := (p.advance (label.length + 3)).skipSpaces
        match destinationLength? q.rest with
        | none => none
        | some n => readTitle (labelKey label) p.line (q.advance n)
    | _ => none
  | _ => none

/-- Reads all definitions at the beginning of a text; `fuel` is at least their number. -/
def readDefinitions : Nat → Place → List Definition
  | 0, _ => []
  | fuel + 1, p =>
    match readDefinition p with
    | none => []
    | some d => d :: readDefinitions fuel d.next

/-- Takes the lines of definitions away from those of their paragraph. Line numbers count from the
last definition taken away. -/
def dropDefinitions (offset : Nat) (lines : List Text) : List Definition → List Text
  | [] => lines
  | d :: ds =>
    if lines.isEmpty then lines
    else
      dropDefinitions d.stop (lines.take (d.first - offset) ++ lines.drop (d.stop - offset)) ds

/-- The lines of a paragraph without its definitions, and the labels that these define. -/
def splitDefinitions (lines : List Text) : List Text × List Text :=
  if lines.head?.bind List.head? ≠ some 91 then (lines, [])
  else
    let text := trimRight lines.flatten
    let ds := readDefinitions text.length ⟨0, text⟩
    (dropDefinitions 0 lines ds, ds.map Definition.key)

end Markdown

end SyntaxPlayground
