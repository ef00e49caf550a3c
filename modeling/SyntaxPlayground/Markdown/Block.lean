import SyntaxPlayground.Markdown.Inline

/-!
# Blocks of a markdown document

A document is a sequence of blocks: headings, paragraphs, fenced and indented code, lists, quotes,
breaks and blocks of tags. `blocksOf` finds the blocks on the top level. What lists and quotes hold
matters only so far as it decides where they end, and for the labels that are defined in them.

The reader keeps the blocks that are open, the outermost first. Each line is first offered to them
in turn; what is left of it may open new blocks. A paragraph goes on with any line that starts no
block of its own, wherever the paragraph is.
-/

namespace SyntaxPlayground

namespace Markdown

/-- A block on the top level. -/
inductive Block where
  | heading (level : Nat) (text : Text)
  | paragraph (text : Text)
  | fenced (text : Text)
  /-- A list, a quote, indented code, a break, tags or a paragraph of definitions. -/
  | other
deriving DecidableEq, Repr

/-- A block that further lines may belong to. -/
inductive Open where
  | quote
  | list (marker : UInt8)
  /-- An item of the list right before it: the indentation of its content, and whether it has
  none so far. -/
  | item (offset : Nat) (isEmpty : Bool)
  /-- Its lines, newest first. -/
  | paragraph (lines : List Text)
  /-- The mark of the fence, its length and indentation, and the lines, newest first. -/
  | fenced (mark : UInt8) (length indent : Nat) (lines : List Text)
  | indented
  /-- How the block ends, and its line as long as it has only one. -/
  | tags (kind : TagBlock) (only : Option Text)
deriving DecidableEq, Repr

namespace Open

/-- The block once no further line belongs to it, and the labels that it defines. -/
def close : Open → Block × List Text
  | paragraph lines =>
    let (kept, labels) := splitDefinitions lines.reverse
    (if kept.isEmpty then .other else .paragraph (trimRight kept.flatten), labels)
  | fenced _ _ _ lines => (.fenced lines.reverse.flatten, [])
  | _ => (.other, [])

/-- The block with something in it. -/
def fill : Open → Open
  | item offset _ => item offset false
  | o => o

/-- Whether the block is a list. -/
def isList : Open → Bool
  | list _ => true
  | _ => false

end Open

/-! ## What a line starts -/

/-- Whether a text at the given column is a break: three or more equal marks and white space. -/
def isBreak (column : Nat) (t : Text) : Bool :=
  let (width, length) := indentation column t
  if 3 < width then false
  else
    match (t.drop length).filter (!isSpace ·) with
    | [] => false
    | b :: marks => (b == 42 || b == 45 || b == 95) && marks.all (· == b) && 2 ≤ marks.length

/-- The level of the heading that a line makes of the paragraph before it. -/
def underlineLevel? (t : Text) : Option Nat :=
  let spaces := t.takeWhile (· == 32)
  let bar := trimRight (t.drop spaces.length)
  if 3 < spaces.length ∨ bar = [] then none
  else if bar.all (· == 61) then some 1
  else if bar.all (· == 45) then some 2
  else none

/-- Drops the closing marks of a heading, which follow white space or begin the text. -/
def dropClosing (t : Text) : Text :=
  let kept := t.dropTrailing (· == 35)
  if kept.length = t.length then t
  else
    match kept.getLast? with
    | none => []
    | some b => if isSpace b then kept else t

/-- The heading that a line is, by its marks. -/
def heading? (l : Line) : Option Block :=
  let level := (l.body.takeWhile (· == 35)).length
  let rest := l.body.drop level
  if level = 0 ∨ 6 < level then none
  else
    match rest with
    | [] => some (.heading level [])
    | b :: _ =>
      if isSpace b then some (.heading level (dropClosing (trimLeft (trimRight rest)))) else none

/-- The fence that a line opens. -/
def fence? (l : Line) : Option Open :=
  match l.body with
  | [] => none
  | mark :: _ =>
    let length := (l.body.takeWhile (· == mark)).length
    let info := l.body.drop length
    if (mark != 96 && mark != 126) || length < 3 then none
    else if mark == 96 && info.contains 96 then none
    else some (.fenced mark length l.indentLength [])

/-- The block of tags that a line opens. -/
def tags? (inParagraph : Bool) (l : Line) : Option Open :=
  if l.body.head? = some 60 then
    (TagBlock.ofLine? inParagraph l.view).map fun kind => .tags kind (some l.view)
  else none

/-- A marker of a list item: the spaces before it, its end, its last byte, and for a numbered item
its number. -/
structure Marker where
  spaces : Nat
  stop : Nat
  mark : UInt8
  number : Option Nat
deriving DecidableEq, Repr

/-- The marker that a text begins with. -/
def marker? (t : Text) : Option Marker :=
  let spaces := (t.takeWhile (· == 32)).length
  let rest := t.drop spaces
  let digits := (rest.takeWhile Text.isDigit).length
  let mark := rest.getD digits 0
  let value := (rest.take digits).foldl (fun n b => 10 * n + (b.toNat - 48)) 0
  let found :=
    if 3 < spaces then none
    else if digits = 0 then
      if mark == 45 || mark == 42 || mark == 43 then
        some { spaces, stop := spaces + 1, mark, number := none : Marker }
      else none
    else if digits ≤ 9 && (mark == 46 || mark == 41) then
      some { spaces, stop := spaces + digits + 1, mark, number := some value }
    else none
  match found with
  | none => none
  | some m =>
    match t[m.stop]? with
    | none => some m
    | some b => if b = 10 ∨ b = 32 ∨ b = 9 then some m else none

namespace Marker

/-- What follows the marker. -/
def rest (m : Marker) (t : Text) : Text :=
  t.drop m.stop

/-- The columns between a marker and the content of its item. -/
def gap (m : Marker) (t : Text) : Nat :=
  let width := (indentation m.stop (m.rest t)).1
  if onlySpace (m.rest t) ∨ 4 < width then 1 else width

/-- The indentation of the content of the item. -/
def offset (m : Marker) (t : Text) : Nat :=
  m.stop + m.gap t

/-- What is left of a line after the marker and the columns that belong to it. -/
def content (m : Marker) (l : Line) : Line :=
  let (n, spare) := (indentPosition? (m.gap l.view) m.stop (m.rest l.view)).getD (0, 0)
  l.dropPadded (m.stop + n) spare

/-- Whether a marker may open a list in the middle of a paragraph: only with content, and with a
number only if that is one. -/
def interrupts (m : Marker) (t : Text) : Bool :=
  m.number.all (· == 1) && !onlySpace (m.rest t)

end Marker

/-- Takes the mark of a quote off a line, with the column after it if that is white space. -/
def unquote? (l : Line) : Option Line :=
  if 3 < l.indent then none
  else
    match l.body with
    | 62 :: rest =>
      let inner := l.drop (l.indentLength + 1)
      match rest with
      | 32 :: _ => some (inner.dropPadded 1 0)
      | 9 :: _ => some (inner.dropPadded 1 (tabWidth inner.start - 1))
      | _ => some inner
    | _ => none

/-! ## Opening blocks -/

/-- A paragraph that is the innermost open block, with its lines, newest first. It is `direct` if it
belongs to the block that a new one becomes part of. -/
structure OpenParagraph where
  direct : Bool
  lines : List Text
deriving DecidableEq, Repr

/-- What a line does after the open blocks have taken their part of it. -/
inductive Opening where
  | nothing
  /-- It goes on with the innermost paragraph. -/
  | continuation (line : Text)
  /-- It underlines the innermost paragraph. -/
  | underline (level : Nat)
  /-- It opens blocks, the outermost first, and maybe a block of one line inside them. -/
  | blocks (opened : List Open) (single : Option Block)
deriving DecidableEq, Repr

namespace Opening

/-- A block opened around what was opened inside it. -/
def inside (outer : Open) : Opening → Opening
  | blocks opened single => blocks (outer.fill :: opened) single
  | _ => blocks [outer] none

end Opening

/-- Opens the blocks that a line starts. `fresh` tells that the line has opened a block already;
before that a paragraph that is open may be continued. `inList` tells that a new block becomes part
of a list, and `blankItem` that an item which is still empty was followed by a blank line; that is
answered too. -/
def openBlocks : Nat → Bool → Bool → Option OpenParagraph → Line → Bool → Opening × Bool
  | 0, _, _, _, _, blankItem => (.nothing, blankItem)
  | fuel + 1, fresh, inList, paragraph, l, blankItem =>
    let shallow := l.indent ≤ 3
    let marked := shallow && !l.isCramped
    let mayContinue := paragraph.isSome && !fresh
    if l.isBlank || l.view.head? == some 10 then (.nothing, blankItem)
    else
      let underlined :=
        if shallow && paragraph.any (·.direct) then underlineLevel? l.view else none
      let marker := marker? l.view
      let opensItem (m : Marker) : Opening × Bool :=
        let item (isEmpty : Bool) := Open.item (m.offset l.view) isEmpty
        if onlySpace (m.rest l.view) then (.blocks [item true] none, false)
        else
          let (inner, blankItem) := openBlocks fuel true false none (m.content l) false
          (inner.inside (item true), blankItem)
      match underlined, marker with
      | some level, _ =>
        -- A paragraph that holds nothing but definitions cannot be underlined.
        let lines := (paragraph.map OpenParagraph.lines).getD []
        if (splitDefinitions lines.reverse).1.isEmpty then
          openBlocks fuel fresh inList none l blankItem
        else (.underline level, blankItem)
      | none, marker =>
        let opensList (m : Marker) : Bool :=
          shallow && (m.interrupts l.view || !paragraph.any (·.direct))
        if shallow && !l.body.head?.any isSpace && isBreak l.start l.view then (.blocks [] (some .other), blankItem)
        else if inList && marker.isSome then
          (marker.map opensItem).getD (.nothing, blankItem)
        else if marker.any opensList then
          let mark := (marker.map Marker.mark).getD 0
          let (inner, blankItem) := (marker.map opensItem).getD (.nothing, blankItem)
          (inner.inside (.list mark), blankItem)
        else
          let heading := if marked then heading? l else none
          let leaf :=
            if marked then (fence? l).or (tags? mayContinue l) else none
          match heading, leaf, unquote? l with
          | some h, _, _ => (.blocks [] (some h), blankItem)
          | none, some leaf, _ => (.blocks [leaf] none, blankItem)
          | none, none, some inner =>
            let (inner, blankItem) := openBlocks fuel true false none inner blankItem
            (inner.inside .quote, blankItem)
          | none, none, none =>
            if mayContinue then (.continuation (trimLeft l.text), blankItem)
            else if shallow then (.blocks [.paragraph [trimLeft l.text]] none, blankItem)
            else (.blocks [.indented] none, blankItem)

/-! ## Lines for open blocks -/

/-- Whether a line that is not blank belongs to a list, whose last item is given. -/
def listTakes (marker : UInt8) (offset : Nat) (isEmpty : Bool) (l : Line) (blankItem : Bool) :
    Bool :=
  if l.indent < offset || isEmpty then
    match (if l.indent < 4 then marker? l.view else none) with
    | some m => m.mark == marker && !isBreak 0 (l.view.drop (m.stop - 1))
    | none => isEmpty && offset ≤ l.indent && !blankItem
  else !blankItem

/-- The part of a line that an item leaves to its content; `none` if the line is not the item's. A
marker opens the next item if it is less indented than the content would be, or if only blank lines
have followed the marker of an empty item. -/
def itemTakes (offset : Nat) (isEmpty : Bool) (l : Line) (blankItem : Bool) : Option Line :=
  let wide := offset ≤ l.indent
  if !wide || (isEmpty && blankItem && (marker? l.view).isSome && l.indent < 4) then none
  else l.dedent? offset

/-- A line of fenced code without the indentation of the fence. -/
def codeLine (indent : Nat) (l : Line) : Text :=
  let line :=
    match indentPosition? indent l.start l.view with
    | some (n, spare) => List.replicate spare 32 ++ l.view.drop n
    | none =>
      let body := l.view.dropWhile fun b => b == 32 || b == 9
      if body.isEmpty || body.head? == some 10 then l.view else body
  if line.isEmpty || line.getLast? == some 10 then line else line ++ [10]

/-- Whether a line closes the fence. -/
def closesFence (mark : UInt8) (length : Nat) (l : Line) : Bool :=
  let run := (l.body.takeWhile (· == mark)).length
  l.indent < 4 && length ≤ run && onlySpace (l.body.drop run)

/-- What becomes of an open block when a line comes. -/
inductive Taking where
  /-- The block goes on, and what is left of the line is for the blocks inside it. -/
  | passes (rest : Line)
  /-- The block takes the whole line. -/
  | takes (block : Open)
  /-- The line closes the block and nothing is left of it. -/
  | ends
  /-- The line is not the block's. -/
  | refuses
deriving DecidableEq, Repr

/-- Offers a line to a block of tags. -/
def offerTags (kind : TagBlock) (only : Option Text) (l : Line) : Taking :=
  if kind = .upToBlank then (if l.isBlank then .refuses else .takes (.tags kind none))
  else if only.any (kind.closes ·) then .refuses
  else if kind.closes l.view then .ends
  else .takes (.tags kind none)

/-- Offers a line to an open block, with the blocks inside it. With the answer comes whether an
item that is still empty was followed by a blank line. -/
def offer (block : Open) (inner : List Open) (l : Line) (blankItem : Bool) : Taking × Bool :=
  match block with
  | .quote =>
    match unquote? l with
    | some rest => (.passes rest, blankItem)
    | none => (.refuses, blankItem)
  | .list marker =>
    let (offset, isEmpty) :=
      match inner with
      | .item offset isEmpty :: _ => (offset, isEmpty)
      | _ => (0, true)
    if l.isBlank then (.passes l, blankItem || isEmpty)
    else (if listTakes marker offset isEmpty l blankItem then .passes l else .refuses, blankItem)
  | .item offset isEmpty =>
    if l.isBlank then (.passes l, blankItem)
    else
      match itemTakes offset isEmpty l blankItem with
      | some rest => (.passes rest, blankItem)
      | none => (.refuses, blankItem)
  | .fenced mark length indent lines =>
    if closesFence mark length l then (.ends, blankItem)
    else (.takes (.fenced mark length indent (codeLine indent l :: lines)), blankItem)
  | .indented => (if l.isBlank || 4 ≤ l.indent then .takes block else .refuses, blankItem)
  | .tags kind only => (offerTags kind only l, blankItem)
  | .paragraph _ => (.refuses, blankItem)

/-! ## The reader -/

/-- The blocks found so far, newest first, those that are open, outermost first, and the labels that
are defined. -/
structure Reader where
  done : List Block := []
  opened : List Open := []
  labels : List Text := []
  /-- Whether an item that is still empty was followed by a blank line. -/
  blankItem : Bool := false
deriving DecidableEq, Repr

/-- Adds a line to the innermost paragraph. -/
def extendLast (line : Text) : List Open → List Open
  | [] => []
  | [.paragraph lines] => [.paragraph (line :: lines)]
  | o :: os => o :: extendLast line os

namespace Reader

/-- Adds a block on the top level. -/
def add (r : Reader) (b : Block) : Reader :=
  { r with done := b :: r.done }

/-- Closes the blocks `old`, which are on the top level unless `nested`. -/
def close (r : Reader) (nested : Bool) (old : List Open) : Reader :=
  let labels := (old.getLast?.map fun o => o.close.2).getD []
  let r := { r with labels := labels ++ r.labels }
  match nested, old with
  | false, o :: _ => r.add o.close.1
  | _, _ => r

/-- Makes a heading of the paragraph that `old` consists of. -/
def underline (r : Reader) (nested : Bool) (level : Nat) (old : List Open) : Reader :=
  match old with
  | [.paragraph lines] =>
    let (kept, labels) := splitDefinitions lines.reverse
    let r := { r with labels := labels ++ r.labels }
    if nested then r else r.add (.heading level (trimRight kept.flatten))
  | _ => r

/-- The innermost of the blocks `old` if it is a paragraph. -/
def openParagraph? (old : List Open) : Option OpenParagraph :=
  match old.getLast? with
  | some (.paragraph lines) => some ⟨old.length == 1, lines⟩
  | _ => none

/-- Closes `old`, which is inside `outer` (innermost first), and opens what the line starts. -/
def reopen (r : Reader) (outer old : List Open) (l : Line) : Reader :=
  let (opening, blankItem) := openBlocks (2 * l.view.length + 4) false
    (outer.head?.any Open.isList) (openParagraph? old) l r.blankItem
  let r := { r with blankItem }
  let nested := !outer.isEmpty
  let filled (_ : Unit) : List Open :=
    match outer with
    | [] => []
    | o :: os => (o.fill :: os).reverse
  match opening with
  | .nothing => { r.close nested old with opened := outer.reverse }
  | .continuation line => { r with opened := outer.reverse ++ extendLast line old }
  | .underline level => { r.underline nested level old with opened := filled () }
  | .blocks new single =>
    let r := r.close nested old
    let r := if nested || !new.isEmpty then r else (single.map r.add).getD r
    { r with opened := filled () ++ new }

/-- Offers a line to the open blocks `old` inside `outer` (innermost first). -/
def walk (r : Reader) (outer : List Open) (l : Line) : List Open → Reader
  | [] => { r with opened := outer.reverse }
  | block :: inner =>
    let (taking, blankItem) := offer block inner l r.blankItem
    let r := { r with blankItem }
    match taking with
    | .passes rest =>
      if inner.isEmpty then r.reopen (block :: outer) [] rest
      else walk r (block :: outer) rest inner
    | .takes block => { r with opened := outer.reverse ++ [block] }
    | .ends => { r.close (!outer.isEmpty) [block] with opened := outer.reverse }
    | .refuses => r.reopen outer (block :: inner) l

/-- Reads a line. -/
def step (r : Reader) (line : Text) : Reader :=
  let l : Line := { text := line }
  match r.opened with
  | [] => r.reopen [] [] l
  | opened => r.walk [] l opened

/-- Closes all blocks once the document has ended. -/
def finish (r : Reader) : Reader :=
  r.close false r.opened

end Reader

namespace Block

/-- The block with the marks taken off if it is a heading. -/
def unmarked (labels : List Text) : Block → Block
  | heading level t => heading level (plainText labels t)
  | b => b

end Block

/-- The blocks on the top level of a document. -/
def blocksOf (t : Text) : List Block :=
  let r := ((linesOf t).foldl Reader.step {}).finish
  r.done.reverse.map (Block.unmarked r.labels)

end Markdown

end SyntaxPlayground
