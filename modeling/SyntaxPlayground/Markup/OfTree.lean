import SyntaxPlayground.Dump.Reader
import SyntaxPlayground.Markup.Writer
import SyntaxPlayground.Tree.Draft

/-!
# Trees as nested lists

Every node becomes a list of class `ast-node` that carries the span and holds the node's label, an
item of class `ast-child`, followed by the lists of its children.
-/

namespace SyntaxPlayground

/-! ## The names that the markup of a tree is made of -/

namespace Vocabulary

/-- The class of a node's list. -/
def node : Text := utf8 "ast-node"

/-- The class of a node's label. -/
def label : Text := utf8 "ast-child"

/-- The class of a node under the pointer. -/
def highlight : Text := utf8 "highlight"

/-- The attribute for the start of the span. -/
def start : Text := utf8 "data-start"

/-- The attribute for the end of the span. -/
def stop : Text := utf8 "data-end"

/-- What the span attributes hold when there is no span. -/
def noSpan : Text := utf8 "undefined"

/-- The attribute for the class list. -/
def classAttr : Text := utf8 "class"

/-- The attribute for the handle of a mounted element. -/
def handle : Text := utf8 "data-id"

end Vocabulary

namespace Tree

/-- The values of the two span attributes. -/
def spanValues (s : Option Span) : Text × Text :=
  match s with
  | none => (Vocabulary.noSpan, Vocabulary.noSpan)
  | some s => (Text.ofInt s.start, Text.ofInt s.stop)

/-- The attributes of a node's list. -/
def listAttributes (s : Option Span) : Attributes :=
  [⟨Vocabulary.classAttr, Vocabulary.node⟩, ⟨Vocabulary.start, (spanValues s).1⟩,
    ⟨Vocabulary.stop, (spanValues s).2⟩]

/-- The item that shows a node's label. -/
def labelItem (t : Tree) : Markup :=
  .element .html (utf8 "li") [⟨Vocabulary.classAttr, Vocabulary.label⟩] [.text t.label]

mutual

/-- The markup of a tree. -/
def markup : Tree → Markup
  | node k l s cs =>
    .element .html (utf8 "ul") (listAttributes s) (labelItem (node k l s cs) :: markupAll cs)

/-- The markup of some siblings. -/
def markupAll : List Tree → List Markup
  | [] => []
  | t :: ts => markup t :: markupAll ts

end

/-- The markup of a tree as text. -/
def render (t : Tree) : Text :=
  t.markup.write

end Tree

/-- The markup text of a tree that may be missing, which shows as nothing. -/
def renderTree (t : Option Tree) : Text :=
  (t.map Tree.render).getD []

namespace Draft

/-- The markup text of a draft. A hole shows as nothing, but a draft with a hole inside it cannot
be shown. -/
def render? : Draft → Option Text
  | hole => some []
  | d => d.complete?.map Tree.render

end Draft

end SyntaxPlayground
