import SyntaxPlayground.Markup.Reader
import SyntaxPlayground.Page.ClassList
import SyntaxPlayground.Page.Listener
import SyntaxPlayground.Text.Quoted
import Std.Data.HashSet

/-!
# The document

The page has a body with two panes, one for the tree and one for plain results, of which one is
shown. Mounting markup gives every element of it a handle, `n0`, `n1`, …, in document order; handles
are never given twice. Content that was replaced is kept aside, because a listener may still hold
on to it, but its handles no longer resolve.
-/

namespace SyntaxPlayground

/-- Which pane is shown. -/
inductive ViewMode where
  | tree
  | text
  /-- A mode by any other number; it shows as `text`. -/
  | other (number : Int)
deriving DecidableEq, Repr

namespace ViewMode

/-- The mode with the given number. -/
def ofInt (n : Int) : ViewMode :=
  if n = 0 then tree else if n = 1 then text else other n

/-- The name of a mode. -/
def name : ViewMode → Text
  | tree => utf8 "tree"
  | _ => utf8 "text"

end ViewMode

/-- What can go wrong in a document. -/
inductive DocumentError where
  | unknownElement (handle : Handle)
  | unsupportedKind (kind : Text)
  | badMarkup (cause : MarkupError)
deriving DecidableEq, Repr

namespace DocumentError

/-- The text shown for the error. -/
def message : DocumentError → Text
  | unknownElement h => utf8 "unknown element: " ++ h
  | unsupportedKind k => utf8 "unsupported event kind " ++ Text.quoted k
  | badMarkup e => utf8 "parse markup: " ++ e.message

end DocumentError

/-- The panes, their content and the listeners. -/
structure Document where
  /-- The content of the tree pane. -/
  content : List Markup := []
  /-- Content that was in the tree pane before. -/
  detached : List Markup := []
  /-- The text in the result pane. -/
  result : Text := []
  mode : ViewMode := .tree
  treeAttrs : Attributes := []
  resultAttrs : Attributes := []
  bodyAttrs : Attributes := []
  /-- The handles that resolve. -/
  handles : List Handle := []
  /-- The number of the next handle. -/
  nextHandle : Nat := 0
  registry : Registry := {}

namespace Document

/-- The identifier of the tree pane. -/
def treePaneId : Text := utf8 "interactive-ast"

/-- The identifier of the result pane. -/
def resultPaneId : Text := utf8 "result"

/-- The attribute that shows or hides a pane. -/
def styleAttr : Text := utf8 "style"

/-- Shows one pane and hides the other, leaving the content alone. -/
def setViewMode (d : Document) (m : ViewMode) : Document :=
  let (treeStyle, resultStyle) :=
    match m with
    | .tree => (utf8 "display: block", utf8 "display: none")
    | _ => (utf8 "display: none", utf8 "display: inline-block")
  { d with
    mode := m
    treeAttrs := d.treeAttrs.set styleAttr treeStyle
    resultAttrs := d.resultAttrs.set styleAttr resultStyle }

/-- An empty document that shows its tree pane. -/
def empty : Document :=
  setViewMode
    { treeAttrs := [⟨utf8 "id", treePaneId⟩], resultAttrs := [⟨utf8 "id", resultPaneId⟩] } .tree

/-- Whether the pane with the given identifier is shown. -/
def visible (d : Document) (pane : Text) : Bool :=
  if pane = treePaneId then d.mode = .tree
  else if pane = resultPaneId then d.mode = .text
  else false

/-- Replaces the text in the result pane. -/
def setResult (d : Document) (t : Text) : Document :=
  { d with result := t }

/-! ## Handles -/

/-- The handle with the given number. -/
def handleText (n : Nat) : Handle :=
  utf8 "n" ++ Text.ofNat n

/-- The handle that an element carries. -/
def handleOf? (m : Markup) : Option Handle :=
  m.attrs.get? Vocabulary.handle

mutual

/-- Gives handles to the elements of a node, from number `next` on in document order; answers the
number after the last one given. -/
def number (next : Nat) : Markup → Markup × Nat
  | .element ns t as cs =>
    let (cs, after) := numberAll (next + 1) cs
    (.element ns t (as.set Vocabulary.handle (handleText next)) cs, after)
  | .text s => (.text s, next)
  | .comment s => (.comment s, next)

/-- Gives handles to the elements of some siblings. -/
def numberAll (next : Nat) : List Markup → List Markup × Nat
  | [] => ([], next)
  | m :: ms =>
    let (m, next) := number next m
    let (ms, next) := numberAll next ms
    (m :: ms, next)

end

/-- The handles that the elements of some content carry. -/
def handlesIn (ms : List Markup) : List Handle :=
  (Markup.elementsAll ms).filterMap handleOf?

/-- Empties the tree pane. The handles in it are forgotten. -/
def clear (d : Document) : Document :=
  let gone := Std.HashSet.ofList (handlesIn d.content)
  { d with
    content := []
    detached := d.detached ++ d.content
    handles := d.handles.filter fun h => !gone.contains h }

/-- Replaces the content of the tree pane. If the markup cannot be read nothing changes. -/
def mount (d : Document) (markup : Text) : Except DocumentError Document :=
  match Markup.read markup with
  | .error e => .error (.badMarkup e)
  | .ok nodes =>
    let d := d.clear
    let (content, next) := numberAll d.nextHandle nodes
    .ok { d with
          content := content
          handles := d.handles ++ handlesIn content
          nextHandle := next }

/-- The element with the given handle, if it is mounted now. -/
def resolve (d : Document) (h : Handle) : Except DocumentError Target :=
  if d.handles.contains h then .ok (.element h) else .error (.unknownElement h)

/-! ## Elements -/

/-- Whether a node is the element with the given handle. -/
def carries (h : Handle) (m : Markup) : Bool :=
  handleOf? m == some h

/-- The element with the given handle, mounted or not. -/
def element? (d : Document) (h : Handle) : Option Markup :=
  (Markup.elementsAll (d.content ++ d.detached)).find? (carries h)

/-- The attributes of a target; there are none to read nowhere. -/
def attrs? (d : Document) : Target → Option Attributes
  | .element h => (d.element? h).map Markup.attrs
  | .treePane => some d.treeAttrs
  | .body => some d.bodyAttrs
  | .nowhere => none

/-- The value of an attribute of a target. -/
def attr? (d : Document) (t : Target) (name : Text) : Option Text :=
  (d.attrs? t).bind (·.get? name)

/-- The element name of a target. -/
def tag? (d : Document) : Target → Option Text
  | .element h => (d.element? h).map Markup.tag
  | .treePane => some (utf8 "div")
  | .body => some (utf8 "body")
  | .nowhere => none

/-- The text in a target. -/
def text? (d : Document) : Target → Option Text
  | .element h => (d.element? h).map Markup.textContent
  | .treePane => some (Markup.textContentAll d.content)
  | .body => some (Markup.textContentAll d.content ++ d.result)
  | .nowhere => none

/-- The element around a target; nowhere if there is none. -/
def parent (d : Document) : Target → Target
  | .element h =>
    if d.content.any (carries h) then .treePane
    else
      match (Markup.elementsAll (d.content ++ d.detached)).find? (·.children.any (carries h)) with
      | some m =>
        match handleOf? m with
        | some p => .element p
        | none => .nowhere
      | none => .nowhere
  | .treePane => .body
  | .body => .nowhere
  | .nowhere => .nowhere

/-- The handles of the elements in the tree pane with the given class, in document order. -/
def withClass (d : Document) (c : Text) : List Handle :=
  ((Markup.elementsAll d.content).filter (·.attrs.hasClass c)).filterMap handleOf?

/-- Whether a target has a class. -/
def hasClass (d : Document) (t : Target) (c : Text) : Bool :=
  match d.attrs? t with
  | some as => as.hasClass c
  | none => false

mutual

/-- Changes the attributes of the element with the given handle. -/
def updateIn (h : Handle) (f : Attributes → Attributes) : Markup → Markup
  | .element ns t as cs =>
    .element ns t (if as.get? Vocabulary.handle = some h then f as else as) (updateInAll h f cs)
  | .text s => .text s
  | .comment s => .comment s

/-- Changes the attributes of the element with the given handle among some siblings. -/
def updateInAll (h : Handle) (f : Attributes → Attributes) : List Markup → List Markup
  | [] => []
  | m :: ms => updateIn h f m :: updateInAll h f ms

end

/-- Changes the attributes of a target. -/
def updateAttrs (d : Document) (t : Target) (f : Attributes → Attributes) : Document :=
  match t with
  | .element h =>
    { d with content := updateInAll h f d.content, detached := updateInAll h f d.detached }
  | .treePane => { d with treeAttrs := f d.treeAttrs }
  | .body => { d with bodyAttrs := f d.bodyAttrs }
  | .nowhere => d

/-- Adds a class to a target. It takes an element to add it to. -/
def addClass? (d : Document) (t : Target) (c : Text) : Option Document :=
  match t with
  | .nowhere => none
  | t => some (d.updateAttrs t (·.addClass c))

/-- Removes a class from a target. -/
def removeClass (d : Document) (t : Target) (c : Text) : Document :=
  d.updateAttrs t (·.removeClass c)

/-- The content of the tree pane as text. -/
def treeHtml (d : Document) : Text :=
  Markup.writeAll d.content

/-! ## Listeners -/

/-- Registers a listener: its number and the document with it. -/
def listen (d : Document) (l : Listener) : Nat × Document :=
  let (id, registry) := d.registry.add l
  (id, { d with registry := registry })

/-- Takes a listener out. -/
def unlisten (d : Document) (id : Nat) : Document :=
  { d with registry := d.registry.remove id }

/-- The event of a kind that pages know, at a mounted element. -/
def eventTo (d : Document) (h : Handle) (kind : Text) : Except DocumentError Event :=
  if EventKind.all.contains kind then (d.resolve h).map (⟨kind, ·⟩)
  else .error (.unsupportedKind kind)

end Document

end SyntaxPlayground
