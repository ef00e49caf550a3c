import SyntaxPlayground.Markdown.Line
import SyntaxPlayground.Text.Scalar

/-!
# Tags in a markdown document

Markdown leaves tags as they are. A line that begins with certain tags opens a block that ends at
a mark or at a blank line; anywhere else in a text a tag, a comment or the like is one unit in which
no other marks are looked for.
-/

namespace SyntaxPlayground

namespace Markdown

/-! ## Attributes -/

/-- A byte that may begin the name of an attribute. -/
def beginsAttribute (b : UInt8) : Bool :=
  Text.isLetter b || b == 95 || b == 58

/-- A byte of the name of an attribute. -/
def isAttributeByte (b : UInt8) : Bool :=
  Text.isLetter b || Text.isDigit b || b == 58 || b == 46 || b == 95 || b == 45

/-- A byte of the name of a tag. -/
def isTagByte (b : UInt8) : Bool :=
  Text.isLetter b || Text.isDigit b || b == 45

/-- A byte of a value without quotes. -/
def isBareByte (b : UInt8) : Bool :=
  32 < b && b != 34 && b != 39 && b != 61 && b != 60 && b != 62 && b != 96

/-- The length of the value that a text begins with. -/
def valueLength? : Text → Option Nat
  | [] => none
  | b :: t =>
    if b = 34 ∨ b = 39 then (Text.cutByte? b t).map fun (value, _) => value.length + 2
    else if isBareByte b then some ((t.takeWhile isBareByte).length + 1)
    else none

/-- The length of the attribute that a text begins with: white space, a name and maybe a value. It
is zero if there is none, and an error if there is no value after an equals sign. -/
def attributeLength (t : Text) : Except Unit Nat :=
  let space := spaceLength t
  match t.drop space with
  | [] => .ok 0
  | b :: rest =>
    if space = 0 ∨ !beginsAttribute b then .ok 0
    else
      let name := (rest.takeWhile isAttributeByte).length
      let rest := rest.drop name
      let gap := spaceLength rest
      match rest.drop gap with
      | 61 :: value =>
        let lead := spaceLength value
        match valueLength? (value.drop lead) with
        | some n => .ok (space + 1 + name + gap + 1 + lead + n)
        | none => .error ()
      | _ => .ok (space + 1 + name)

/-- The length of all attributes that a text begins with; `fuel` is at least their number. -/
def attributesLength? : Nat → Text → Option Nat
  | 0, _ => some 0
  | fuel + 1, t =>
    match attributeLength t with
    | .error () => none
    | .ok 0 => some 0
    | .ok n => (attributesLength? fuel (t.drop n)).map (n + ·)

/-- The name that a text begins with. -/
def tagName? (t : Text) : Option Text :=
  match t with
  | [] => none
  | b :: _ => if Text.isLetter b then some (t.takeWhile isTagByte) else none

/-! ## Blocks -/

/-- How a block of tags ends. -/
inductive TagBlock where
  /-- At a line with the closing tag of an element whose content is no markup. -/
  | verbatim
  /-- At a line with a mark. -/
  | upTo (mark : Text)
  /-- At a blank line. -/
  | upToBlank
deriving DecidableEq, Repr

namespace TagBlock

/-- The elements whose content is no markup. -/
def verbatimNames : List Text :=
  ["script", "pre", "style", "textarea"].map utf8

/-- The elements whose tags begin a block wherever they stand. -/
def blockNames : List Text :=
  ["address", "article", "aside", "base", "basefont", "blockquote", "body", "caption", "center",
    "col", "colgroup", "dd", "details", "dialog", "dir", "div", "dl", "dt", "fieldset",
    "figcaption", "figure", "footer", "form", "frame", "frameset", "h1", "h2", "h3", "h4", "h5",
    "h6", "head", "header", "hr", "html", "iframe", "legend", "li", "link", "main", "menu",
    "menuitem", "meta", "nav", "noframes", "ol", "optgroup", "option", "p", "param", "search",
    "section", "summary", "table", "tbody", "td", "tfoot", "th", "thead", "title", "tr", "track",
    "ul"].map utf8

/-- What follows a name, whatever the case of its letters. -/
def afterName? (name t : Text) : Option Text :=
  if (t.take name.length).map Text.lowerByte = name then some (t.drop name.length) else none

/-- Whether a line closes a block of an element whose content is no markup. -/
def closesVerbatim : Text → Bool
  | [] => false
  | b :: t =>
    (b == 60 && t.head? == some 47 && verbatimNames.any fun name =>
      ((afterName? name t.tail).bind List.head?) == some 62) || closesVerbatim t

/-- Whether a line closes the block. -/
def closes (line : Text) : TagBlock → Bool
  | verbatim => closesVerbatim line
  | upTo mark => (line.cut? mark).isSome
  | upToBlank => onlySpace line

/-- The end of a line: nothing or a newline. -/
def isLineEnd (t : Text) : Bool :=
  t == [] || t == [10] || t == [13, 10]

/-- Whether a tag for verbatim content begins here; `t` is what follows `<`. -/
def opensVerbatim (t : Text) : Bool :=
  verbatimNames.any fun name =>
    match afterName? name t with
    | none => false
    | some [] => true
    | some (b :: rest) => isSpace b || b == 12 || b == 62 || (b == 47 && rest.head? == some 62)

/-- The name of the tag that a line begins with; `t` is what follows `<`. Before the name comes a
slash and spaces for a closing tag, and what follows the name comes last. -/
def nameAfterSlash? (t : Text) : Option (Text × Text × Text) :=
  let slash := if t.head? = some 47 then 47 :: t.tail.takeWhile (· == 32) else []
  let t := t.drop slash.length
  (tagName? t).map fun name => (slash, name, t.drop name.length)

/-- Whether a line that holds one complete tag opens a block; in the middle of a paragraph only the
tags of certain elements do. -/
def opensComplete (inParagraph : Bool) (t : Text) : Bool :=
  match nameAfterSlash? t with
  | none => false
  | some (slash, name, rest) =>
    match attributesLength? rest.length rest with
    | none => false
    | some attributes =>
      let stop : Text := (rest.drop attributes).dropWhile (· == 32)
      let stop := if stop.head? = some 47 then stop.tail else stop
      match stop with
      | 62 :: stop =>
        let name := name.map Text.lowerByte
        isLineEnd (stop.dropWhile (· == 32)) &&
          (blockNames.contains name ||
            (!(["script", "style", "pre"].any (utf8 · == name)) && !inParagraph &&
              !(slash == [47] && 0 < attributes)))
      | _ => false

/-- Whether a line begins with a tag that opens a block wherever it stands. -/
def opensNamed (t : Text) : Bool :=
  match nameAfterSlash? t with
  | none => false
  | some (_, name, rest) =>
    let ends :=
      match rest with
      | 32 :: _ | 62 :: _ | 47 :: 62 :: _ => true
      | rest => isLineEnd rest
    ends && blockNames.contains (name.map Text.lowerByte)

/-- The block that a line opens. -/
def ofLine? (inParagraph : Bool) (line : Text) : Option TagBlock :=
  let spaces := (line.takeWhile (· == 32)).length
  if 3 < spaces then none
  else
    match line.drop spaces with
    | 60 :: t =>
      if opensVerbatim t then some verbatim
      else if (utf8 "!--").isPrefixOf t then some (upTo (utf8 "-->"))
      else if (utf8 "?").isPrefixOf t then some (upTo (utf8 "?>"))
      else if t.head? = some 33 ∧ (t.tail.head?.any fun b => 65 ≤ b && b ≤ 90) then
        some (upTo (utf8 ">"))
      else if (utf8 "![CDATA[").isPrefixOf t then some (upTo (utf8 "]]>"))
      else if opensComplete inParagraph t || opensNamed t then some upToBlank
      else none
    | _ => none

end TagBlock

/-! ## Units in a text -/

/-- The length of a text up to the end of the first occurrence of a mark. -/
def lengthThrough? (mark t : Text) : Option Nat :=
  (t.cut? mark).map fun (l, _) => l.length + mark.length

/-- The length of the white space that a text begins with, in which a carriage return counts only
with its newline. -/
def tagSpaceLength : Text → Nat
  | 13 :: 10 :: t => tagSpaceLength t + 2
  | b :: t => if b = 32 ∨ b = 9 ∨ b = 10 then tagSpaceLength t + 1 else 0
  | [] => 0

/-- The length of the end of a tag: white space, for an opening tag maybe a slash, and `>`. -/
def tagEndLength? (isClosing : Bool) (t : Text) : Option Nat :=
  let space := tagSpaceLength t
  match t.drop space with
  | 62 :: _ => some (space + 1)
  | 47 :: 62 :: _ => if isClosing then none else some (space + 2)
  | _ => none

/-- The length of a tag without the marks before its name. Its text has to be well-formed. -/
def tagLength? (isClosing : Bool) (t : Text) : Option Nat :=
  match tagName? t with
  | none => none
  | some name =>
    let rest := t.drop name.length
    match (if isClosing then some 0 else attributesLength? rest.length rest) with
    | none => none
    | some attributes =>
      match tagEndLength? isClosing (rest.drop attributes) with
      | none => none
      | some stop =>
        let n := name.length + attributes + stop
        if (Text.pieces (t.take n)).all fun p => p.scalar != replacementScalar then some n
        else none

/-- The length of the tag, comment, instruction, declaration or raw section that a text begins
with. -/
def unitLength? (t : Text) : Option Nat :=
  let isWord (b : UInt8) := Text.isLetter b || Text.isDigit b
  let isCapital (b : UInt8) := 65 ≤ b && b ≤ 90
  match t with
  | 60 :: 47 :: b :: rest =>
    if isWord b then (tagLength? true (b :: rest)).map (2 + ·) else none
  | 60 :: b :: rest =>
    if isWord b then (tagLength? false (b :: rest)).map (1 + ·)
    else if (utf8 "<!--").isPrefixOf t then
      if (utf8 "<!-->").isPrefixOf t then some 5
      else if (utf8 "<!--->").isPrefixOf t then some 6
      else (lengthThrough? (utf8 "-->") (t.drop 4)).map (4 + ·)
    else if b = 63 then (lengthThrough? (utf8 "?>") (b :: rest)).map (1 + ·)
    else if b = 33 ∧ rest.head?.any isCapital then (lengthThrough? (utf8 ">") t)
    else if (utf8 "<![CDATA[").isPrefixOf t then lengthThrough? (utf8 "]]>") t
    else none
  | _ => none

end Markdown

end SyntaxPlayground
