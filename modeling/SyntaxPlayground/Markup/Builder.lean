import SyntaxPlayground.Markup.OpenElement
import SyntaxPlayground.Markup.Sketch

/-!
# Putting markup together

The builder holds the tree so far, the elements that are open in it, and the formatting that is to go
on after a block. Here are the moves that the rules for tags are made of: adding nodes, closing
elements in scope, and taking up formatting again.
-/

namespace SyntaxPlayground

/-- Which rules tokens are read by. -/
inductive Mode where
  | body
  /-- In an element whose content is text. -/
  | text
  | table
  | caption
  | columns
  | tableBody
  | row
  | cell
  | select
  | selectInTable
  | template
  /-- Everything is passed over. -/
  | ignore
deriving DecidableEq, Repr

/-- An entry in the list of formatting that goes on. -/
inductive FormattingEntry where
  /-- What stands before it does not go on here. -/
  | marker
  | element (e : OpenElement)
deriving DecidableEq, Repr

namespace FormattingEntry

/-- The element of an entry. -/
def element? : FormattingEntry → Option OpenElement
  | marker => none
  | element e => some e

/-- Whether an entry is the element with the given number. -/
def hasNumber (n : Nat) : FormattingEntry → Bool
  | marker => false
  | element e => e.number == n

end FormattingEntry

/-- Markup being put together. -/
structure Builder where
  root : Sketch
  /-- The number of the next element. -/
  next : Nat
  /-- The open elements, innermost first. -/
  stack : List OpenElement
  /-- The formatting that goes on, latest first. -/
  formatting : List FormattingEntry := []
  mode : Mode := .body
  /-- The mode to go back to after an element whose content is text. -/
  resume : Mode := .body
  /-- The modes inside the open templates, innermost first. -/
  templates : List Mode := []
  /-- The form that controls belong to. -/
  form : Option Nat := none
  /-- Whether nodes that cannot stand in a table are put before it. -/
  fosters : Bool := false
  /-- Whether the content of the element just read has tags, whatever its name. -/
  readsTags : Bool := false
  /-- The most elements that were open at once. -/
  deepest : Nat := 1

namespace Builder

/-- The element around the fragment. -/
def outermost : OpenElement :=
  .ofTag 0 .html (utf8 "html") []

/-- Nothing read yet. -/
def empty : Builder where
  root := .element 0 .html (utf8 "html") [] []
  next := 1
  stack := [outermost]

/-- The innermost open element. -/
def current (b : Builder) : OpenElement :=
  b.stack.headD outermost

/-! ## Adding nodes -/

/-- Puts a node before the innermost table, or at the end of a template inside it. -/
def foster (b : Builder) (s : Sketch) : Builder :=
  match b.stack.find? fun e => e.role = .table || e.role = .template with
  | some e =>
    { b with
      root := if e.role = .template then b.root.addTo e.number s else b.root.addBefore e.number s }
  | none => { b with root := b.root.addTo outermost.number s }

/-- Adds a node at the end of the innermost element. -/
def insert (b : Builder) (s : Sketch) : Builder :=
  if b.fosters && b.current.role.isTablePlace then b.foster s
  else { b with root := b.root.addTo b.current.number s }

/-- Adds text. -/
def insertText (b : Builder) (t : Text) : Builder :=
  if t.isEmpty then b else b.insert (.text [t])

/-- Adds an element and opens it. -/
def openIn (space : Namespace) (tag : Text) (attrs : Attributes) (b : Builder) : Builder :=
  let e := OpenElement.ofTag b.next space tag attrs
  let b := b.insert (.element e.number space tag attrs [])
  { b with
    next := b.next + 1
    stack := e :: b.stack
    deepest := max b.deepest (b.stack.length + 1) }

/-- Adds an element of the page and opens it. -/
def openTag (tag : Text) (attrs : Attributes) (b : Builder) : Builder :=
  b.openIn .html tag attrs

/-- Closes the innermost element. -/
def pop (b : Builder) : Builder :=
  { b with stack := b.stack.drop 1 }

/-- Adds an element that has no content. -/
def addVoid (tag : Text) (attrs : Attributes) (b : Builder) : Builder :=
  (b.openTag tag attrs).pop

/-- Opens an element whose content is text. -/
def openText (tag : Text) (attrs : Attributes) (b : Builder) : Builder :=
  let b := b.openTag tag attrs
  { b with resume := b.mode, mode := .text }

/-- Whether the innermost element has no content yet. -/
def currentIsEmpty (b : Builder) : Bool :=
  match b.root.find? b.current.number with
  | some s => s.children.isEmpty
  | none => true

/-! ## Closing elements -/

/-- Whether a target is in scope. -/
def inScope (s : Scope) (isTarget : OpenElement → Bool) (b : Builder) : Bool :=
  (s.distance? isTarget b.stack).isSome

/-- Closes up to the innermost target, if one is in scope. -/
def closeTo? (s : Scope) (isTarget : OpenElement → Bool) (b : Builder) : Option Builder :=
  (s.distance? isTarget b.stack).map fun n => { b with stack := b.stack.drop n }

/-- Closes up to the innermost target; does nothing if none is in scope. -/
def closeTo (s : Scope) (isTarget : OpenElement → Bool) (b : Builder) : Builder :=
  (b.closeTo? s isTarget).getD b

/-- Closes the paragraph that a block cannot stand in. -/
def closeParagraph (b : Builder) : Builder :=
  b.closeTo .button (·.role = .paragraph)

/-- Closes the innermost elements whose end is implied, down to one called `except`. -/
def closeImplied (except : Option Text) (b : Builder) : Builder :=
  { b with stack := b.stack.dropWhile fun e => e.role.endIsImplied && except != some e.tag }

/-- Closes elements down to the part of a table with the given role, or to what is around the table. -/
def clearTo (role : TagRole) (b : Builder) : Builder :=
  { b with
    stack := b.stack.dropWhile fun e =>
      !(e.role = role || e.role = .html || e.role = .template) }

/-- The containers that an item reaches through to close an earlier item. -/
def passedTags : List Text :=
  ["address", "div", "p"].map utf8

/-- How many elements have to be closed so that the item before this one is. -/
def itemDistance? (role : TagRole) : List OpenElement → Option Nat
  | [] => none
  | e :: es =>
    if e.role = role then some 1
    else if e.special && !passedTags.contains e.tag then none
    else (itemDistance? role es).map (· + 1)

/-- Closes the item before this one. -/
def closeItem (role : TagRole) (b : Builder) : Builder :=
  { b with stack := b.stack.drop ((itemDistance? role b.stack).getD 0) }

/-- How many elements a stray end tag closes. -/
def strayDistance? (tag : Text) : List OpenElement → Option Nat
  | [] => none
  | e :: es =>
    if e.tag = tag then some 1
    else if e.special then none
    else (strayDistance? tag es).map (· + 1)

/-- Closes the innermost element called `tag`, unless an element that structures the page is open
inside it. -/
def closeStray (tag : Text) (b : Builder) : Builder :=
  { b with stack := b.stack.drop ((strayDistance? tag b.stack).getD 0) }

/-- Whether an element is open. -/
def isOpen (n : Nat) (b : Builder) : Bool :=
  b.stack.any (·.number = n)

/-- Whether a template is open. -/
def inTemplate (b : Builder) : Bool :=
  b.stack.any (·.plays .template)

/-! ## Formatting -/

/-- Takes an element out of the list of formatting. -/
def dropFormatting (n : Nat) (b : Builder) : Builder :=
  { b with formatting := b.formatting.filter fun f => !f.hasNumber n }

/-- Takes an element out of the open ones, leaving those inside it open. -/
def dropOpen (n : Nat) (b : Builder) : Builder :=
  { b with stack := b.stack.filter fun e => !(e.number = n) }

/-- Marks where formatting begins anew. -/
def pushMarker (b : Builder) : Builder :=
  { b with formatting := .marker :: b.formatting }

/-- Forgets the formatting since the last marker, and the marker. -/
def clearFormatting (b : Builder) : Builder :=
  { b with formatting := (b.formatting.dropWhile fun f => f != .marker).drop 1 }

/-- The elements whose formatting goes on here and that are not open, earliest first. -/
def suspended (b : Builder) : List OpenElement :=
  ((b.formatting.takeWhile fun
    | .marker => false
    | .element e => !b.isOpen e.number).filterMap FormattingEntry.element?).reverse

/-- Opens an element again, as a new one in the place of the old in the list of formatting. -/
def reopen (b : Builder) (e : OpenElement) : Builder :=
  let b := b.openTag e.tag e.attrs
  { b with
    formatting := b.formatting.map fun f => if f.hasNumber e.number then .element b.current else f }

/-- Takes up the formatting that goes on here. -/
def resumeFormatting (b : Builder) : Builder :=
  b.suspended.foldl reopen b

/-- Whether an element has a name and a set of attributes. -/
def isLike (tag : Text) (attrs : Attributes) (e : OpenElement) : Bool :=
  e.tag = tag && e.attrs.length == attrs.length && e.attrs.all attrs.contains

/-- The list of formatting with room for one more element: of those like it, since the last marker,
only the latest two stay. -/
def withRoom (tag : Text) (attrs : Attributes) : Nat → List FormattingEntry → List FormattingEntry
  | _, [] => []
  | _, .marker :: rest => .marker :: rest
  | seen, .element e :: rest =>
    if isLike tag attrs e then
      if 2 ≤ seen then withRoom tag attrs (seen + 1) rest
      else .element e :: withRoom tag attrs (seen + 1) rest
    else .element e :: withRoom tag attrs seen rest

/-- Opens an element of formatting. -/
def openFormatting (tag : Text) (attrs : Attributes) (b : Builder) : Builder :=
  let b := b.openTag tag attrs
  { b with formatting := .element b.current :: withRoom tag attrs 0 b.formatting }

/-- The latest element of formatting called `tag` since the last marker. -/
def formattingTag? (tag : Text) (b : Builder) : Option OpenElement :=
  ((b.formatting.takeWhile fun f => f != .marker).filterMap FormattingEntry.element?).find?
    (·.tag = tag)

/-! ## The mode that fits what is open -/

/-- The mode inside the given elements, innermost first. -/
def modeFor (templates : List Mode) : List OpenElement → Mode
  | [] => .body
  | [_] => .body
  | e :: es =>
    match e.role with
    | .select =>
      match es.find? fun a => a.role = .template || a.role = .table with
      | some a => if a.role = .table then .selectInTable else .select
      | none => .select
    | .cell => .cell
    | .row => .row
    | .rowGroup => .tableBody
    | .caption => .caption
    | .columnGroup => .columns
    | .table => .table
    | .template => if e.space = .html then templates.headD .body else modeFor templates es
    | _ => modeFor templates es

/-- Goes back to the mode that fits what is open. -/
def resetMode (b : Builder) : Builder :=
  { b with mode := modeFor b.templates b.stack }

end Builder

end SyntaxPlayground
