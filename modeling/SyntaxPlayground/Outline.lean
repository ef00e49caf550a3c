import SyntaxPlayground.Text.Width
import SyntaxPlayground.Tree.Basic

/-!
# Outlines

A tree written one node a line. The plain outline indents by two spaces a level and is itself a
dump; the styled one draws guides and marks kind and span.
-/

namespace SyntaxPlayground

/-- How a part of a styled line looks on a terminal: the codes that turn the style on. -/
structure TextStyle where
  codes : Text

namespace TextStyle

/-- Kinds are bold and blue. -/
def kind : TextStyle := ⟨utf8 "\x1b[1;38;5;39m"⟩

/-- Spans and guides are dim. -/
def dim : TextStyle := ⟨utf8 "\x1b[38;5;241m"⟩

/-- The code that ends every style. -/
def reset : Text := utf8 "\x1b[0m"

/-- Writes a text in the style: tabs become four spaces, each line is marked by itself when
`color` is on, and the lines of a text with several are padded to the widest. -/
def apply (style : TextStyle) (color : Bool) (t : Text) : Text :=
  let lines := ((t.replaceAll [9] (utf8 "    ")).replaceAll [13, 10] [10]).lines
  let widest := (lines.map Text.width).foldl max 0
  let shown := lines.map fun line =>
    let marked := if color then style.codes ++ line ++ reset else line
    marked ++ List.replicate (widest - line.width) 32
  Text.join [10] shown

end TextStyle

/-- What an outline shows. -/
structure OutlineOptions where
  /-- No guides and no styles. -/
  plain : Bool := false
  /-- Nodes this deep or deeper are left out; no limit when it is not positive. -/
  maxDepth : Int := 0
  /-- Whether styles show as terminal codes. -/
  color : Bool := false
deriving Repr

namespace Tree

/-- One line of the plain outline. -/
def plainLine (depth : Nat) (t : Tree) : Text :=
  (utf8 "  ").times depth ++ t.label

/-- One line of the styled outline. -/
def styledLine (color : Bool) (depth : Nat) (t : Tree) : Text :=
  let guide :=
    if depth = 0 then []
    else TextStyle.dim.apply color ((utf8 "│ ").times (depth - 1) ++ utf8 "├ ")
  let suffix :=
    match t.span with
    | none => []
    | some s => utf8 " " ++ TextStyle.dim.apply color s.text
  guide ++ TextStyle.kind.apply color t.kind ++ suffix

/-- The outline of a tree, one line a node. -/
def outline (o : OutlineOptions) (t : Tree) : Text :=
  let shown (depth : Nat) : Bool := o.maxDepth ≤ 0 || (depth : Int) < o.maxDepth
  ((t.visit fun depth _ => shown depth).filter fun (depth, _) => shown depth).flatMap
    fun (depth, n) => (if o.plain then plainLine depth n else styledLine o.color depth n) ++ [10]

end Tree

end SyntaxPlayground
