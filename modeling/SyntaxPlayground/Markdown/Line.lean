import SyntaxPlayground.Text.Basic

/-!
# Lines of a markdown document

Blocks are recognised line by line. Indentation counts columns: a tab reaches to the next multiple
of four. When a block takes part of a tab, the columns left over stand as spaces before the rest of
the line.
-/

namespace SyntaxPlayground

namespace Markdown

/-- White space as far as markdown is concerned. -/
def isSpace (b : UInt8) : Bool :=
  b == 32 || b == 9 || b == 10 || b == 13

/-- Whether there is nothing but white space. -/
def onlySpace (t : Text) : Bool :=
  t.all isSpace

/-- The length of the white space that a text begins with. -/
def spaceLength (t : Text) : Nat :=
  (t.takeWhile isSpace).length

/-- The text without white space at its beginning. -/
def trimLeft (t : Text) : Text :=
  t.dropWhile isSpace

/-- The text without white space at its end. -/
def trimRight (t : Text) : Text :=
  t.dropTrailing isSpace

/-- Collects lines: `done` holds those that are complete and `current` the bytes of the one being
read, both newest first. -/
def collectLines (done : List Text) (current : Text) : Text → List Text
  | [] => (if current.isEmpty then done else current.reverse :: done).reverse
  | b :: t =>
    if b = 10 then collectLines ((b :: current).reverse :: done) [] t
    else collectLines done (b :: current) t

/-- The lines of a document, each with its newline; the last one may have none. -/
def linesOf (t : Text) : List Text :=
  collectLines [] [] t

/-! ## Columns -/

/-- How far a tab at the given column reaches. -/
def tabWidth (column : Nat) : Nat :=
  4 - column % 4

/-- The columns that a byte takes at the given column. -/
def byteWidth (column : Nat) (b : UInt8) : Nat :=
  if b = 9 then tabWidth column else 1

/-- The width of an indentation that starts at `column`, and its length in bytes. -/
def indentation (column : Nat) : Text → Nat × Nat
  | [] => (0, 0)
  | b :: t =>
    if b = 32 ∨ b = 9 then
      let (width, length) := indentation (column + byteWidth column b) t
      (width + byteWidth column b, length + 1)
    else (0, 0)

/-- The bytes that make up the first `width` columns of an indentation that starts at `column`, and
the columns of the last one beyond them; `none` if the indentation is less. -/
def indentPosition? (width column : Nat) : Text → Option (Nat × Nat)
  | [] => if width = 0 then some (0, 0) else none
  | b :: t =>
    if width = 0 then some (0, 0)
    else if b = 32 ∨ b = 9 then
      let w := byteWidth column b
      if w ≤ width then
        (indentPosition? (width - w) (column + w) t).map fun (n, spare) => (n + 1, spare)
      else some (1, w - width)
    else none

/-! ## Lines -/

/-- What is left of a line. -/
structure Line where
  /-- The column at which the text starts. -/
  column : Nat := 0
  /-- The spaces that stand before the text for a tab of which part was taken. -/
  padding : Nat := 0
  text : Text
deriving DecidableEq, Repr

namespace Line

/-- The line as the blocks see it. -/
def view (l : Line) : Text :=
  List.replicate l.padding 32 ++ l.text

/-- The column at which the view starts. -/
def start (l : Line) : Nat :=
  l.column - l.padding

/-- Whether there is nothing but white space. -/
def isBlank (l : Line) : Bool :=
  onlySpace l.text

/-- The width of the indentation. -/
def indent (l : Line) : Nat :=
  (indentation l.start l.view).1

/-- The length of the indentation in bytes. -/
def indentLength (l : Line) : Nat :=
  (indentation l.start l.view).2

/-- What follows the indentation. -/
def body (l : Line) : Text :=
  l.view.drop l.indentLength

/-- Whether the line is shorter than its indentation is wide; such a line opens no block by a mark
of its own. -/
def isCramped (l : Line) : Bool :=
  l.view.length ≤ l.indent

/-- The line without the first byte of its view. -/
def next (l : Line) : Line :=
  match l.padding, l.text with
  | padding + 1, _ => { l with padding }
  | 0, [] => l
  | 0, b :: t => { column := l.column + byteWidth l.column b, text := t }

/-- The line without the first `n` bytes of its view. -/
def drop (l : Line) : Nat → Line
  | 0 => l
  | n + 1 => l.next.drop n

/-- The line without the first `n` bytes of its view and with at least the given padding. -/
def dropPadded (l : Line) (n padding : Nat) : Line :=
  let l := l.drop n
  { l with padding := max l.padding padding }

/-- Takes `width` columns of indentation off a line; `none` if it has fewer. -/
def dedent? (l : Line) (width : Nat) : Option Line :=
  (indentPosition? width l.start l.view).map fun (n, spare) => l.dropPadded n spare

end Line

end Markdown

end SyntaxPlayground
