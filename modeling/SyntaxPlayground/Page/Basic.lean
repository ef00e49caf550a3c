import SyntaxPlayground.Editor
import SyntaxPlayground.Notice
import SyntaxPlayground.Page.Document

/-!
# The page

The page joins a document and an editor. While it is bound, hovering a label in the tree pane
highlights the label's node and clicking it selects the node's span in the editor.
-/

namespace SyntaxPlayground

/-- A document, an editor, and the listeners that connect them. -/
structure Page where
  document : Document := .empty
  buffer : Buffer
  /-- The numbers of the playground's own listeners, newest first. -/
  bound : List Nat := []
  /-- What was logged, oldest first. -/
  log : List Notice := []

namespace Page

/-- Adds a line to the log. -/
def note (p : Page) (n : Notice) : Page :=
  { p with log := p.log ++ [n] }

/-- Takes the playground's own listeners off the page. -/
def unbind (p : Page) : Page :=
  { p with
    document := { p.document with registry := p.bound.foldl Registry.remove p.document.registry }
    bound := [] }

/-- Puts one listener for each kind of event on a label. -/
def bindLabel (p : Page) (h : Handle) : Page :=
  [(EventKind.mouseEnter, Reaction.hoverIn), (EventKind.mouseLeave, Reaction.hoverOut),
    (EventKind.click, Reaction.pick)].foldl
    (fun p (kind, reaction) =>
      let (id, d) := p.document.listen ⟨.element h, kind, .reaction reaction⟩
      { p with document := d, bound := id :: p.bound })
    p

/-- Binds every label in the tree pane, after taking off what was bound before; answers the number
of labels. -/
def bind (p : Page) : Nat × Page :=
  let p := p.unbind
  let labels := p.document.withClass Vocabulary.label
  (labels.length, labels.foldl bindLabel p)

/-- Whether any label is bound. -/
def isBound (p : Page) : Bool :=
  !p.bound.isEmpty

/-- The list around a label, if there is one. -/
def enclosing? (d : Document) (label : Target) : Option Target :=
  let parent := d.parent label
  if d.hasClass parent Vocabulary.node then some parent else none

/-- Selects a range in the editor; a range that does not fit is only logged. -/
def selectSpan (p : Page) (start stop : Int) : Page :=
  match p.buffer.select start stop with
  | .ok b => { p with buffer := b }
  | .error _ => p.note .selectionRejected

/-- Selects the span of a node. A node without one leaves the selection alone. -/
def pick (p : Page) (node : Target) : Page :=
  let start := (p.document.attr? node Vocabulary.start).getD []
  let stop := (p.document.attr? node Vocabulary.stop).getD []
  if start = Vocabulary.noSpan ∨ start = [] then p
  else
    match start.readInt?, stop.readInt? with
    | some a, some b => p.selectSpan a b
    | _, _ => p.note .badSpan

/-- What a reaction does when an event reaches a label. A label outside any node does nothing. -/
def react (r : Reaction) (ev : Event) (p : Page) : Page :=
  match enclosing? p.document ev.target with
  | none => p
  | some node =>
    match r with
    | .hoverIn =>
      { p with document := p.document.updateAttrs node (·.addClass Vocabulary.highlight) }
    | .hoverOut => { p with document := p.document.removeClass node Vocabulary.highlight }
    | .pick => p.pick node

/-- What the playground does when an event reaches one of its listeners. -/
def handle (h : Handler) (ev : Event) (p : Page) : Page :=
  match h with
  | .reaction r => p.react r ev
  | .script .. => p

/-- Sends an event; answers how many listeners ran. -/
def dispatch (ev : Event) (p : Page) : Nat × Page :=
  dispatchWith (·.document.registry) handle ev p

end Page

end SyntaxPlayground
