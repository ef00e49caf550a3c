import SyntaxPlayground.Markup.Basic
import SyntaxPlayground.Markup.TagRole
import SyntaxPlayground.Text.Case

/-!
# Open elements

The elements whose end has not been read yet, innermost first. A tag may close several of them at
once, but only as far as its scope reaches.
-/

namespace SyntaxPlayground

/-- An element whose end has not been read yet. -/
structure OpenElement where
  /-- Its number in the sketch. -/
  number : Nat
  space : Namespace
  tag : Text
  attrs : Attributes
  role : TagRole
  /-- Whether it structures the page. -/
  special : Bool
deriving DecidableEq, Repr

namespace OpenElement

/-- The elements of formulas that hold text of the page. -/
def mathTextTags : List Text :=
  ["mi", "mn", "mo", "ms", "mtext"].map utf8

/-- The element of formulas that holds other notations. -/
def annotationTag : Text := utf8 "annotation-xml"

/-- The elements of drawings that hold content of the page. -/
def drawingTextTags : List Text :=
  ["desc", "foreignObject", "title"].map utf8

/-- Whether an element structures what it belongs to. -/
def isSpecial (space : Namespace) (tag : Text) : Bool :=
  match space with
  | .html => specialTags.contains tag
  | .math => mathTextTags.contains tag || tag == annotationTag
  | .svg => drawingTextTags.contains tag

/-- The open element of a tag. -/
def ofTag (number : Nat) (space : Namespace) (tag : Text) (attrs : Attributes) : OpenElement :=
  ⟨number, space, tag, attrs, .ofTag tag, isSpecial space tag⟩

/-- Whether an element belongs to the page and has a role. -/
def plays (e : OpenElement) (role : TagRole) : Bool :=
  e.space = .html && e.role = role

/-- Whether text and tags of the page may stand in an element of a formula. -/
def isMathText (e : OpenElement) : Bool :=
  e.space = .math && mathTextTags.contains e.tag

/-- The encodings of an annotation that holds content of the page. -/
def pageEncodings : List Text :=
  ["text/html", "application/xhtml+xml"].map utf8

/-- Whether content of the page may stand in an element of a drawing or a formula. -/
def holdsPage (e : OpenElement) : Bool :=
  match e.space with
  | .html => false
  | .svg => drawingTextTags.contains e.tag
  | .math =>
    e.tag == annotationTag &&
      e.attrs.any fun a => a.name == utf8 "encoding" && pageEncodings.contains a.value.lower

/-- Whether no scope reaches out of the element. -/
def isBarrier (e : OpenElement) : Bool :=
  match e.space with
  | .html =>
    match e.role with
    | .embedded | .caption | .html | .table | .cell | .template => true
    | _ => false
  | _ => e.special

end OpenElement

/-- How far a tag reaches to close an element. -/
inductive Scope where
  /-- Up to a barrier. -/
  | ordinary
  /-- Up to a barrier or a list. -/
  | list
  /-- Up to a barrier or a button. -/
  | button
  /-- Up to the table. -/
  | table
  /-- Through options only. -/
  | options
deriving DecidableEq, Repr

namespace Scope

/-- The lists that items stand in. -/
def listTags : List Text :=
  ["ol", "ul"].map utf8

/-- Whether the scope does not reach out of an element. -/
def endsAt (s : Scope) (e : OpenElement) : Bool :=
  match s with
  | .ordinary => e.isBarrier
  | .list => e.isBarrier || e.space = .html && listTags.contains e.tag
  | .button => e.isBarrier || e.plays .button
  | .table => e.plays .html || e.plays .table || e.plays .template
  | .options => e.space = .html && !(e.role = .option || e.role = .optionGroup)

/-- How many elements have to be closed so that the innermost target is; nothing if there is none in
scope. -/
def distance? (s : Scope) (isTarget : OpenElement → Bool) : List OpenElement → Option Nat
  | [] => none
  | e :: es =>
    if e.space = .html && isTarget e then some 1
    else if s.endsAt e then none
    else (distance? s isTarget es).map (· + 1)

end Scope

end SyntaxPlayground
