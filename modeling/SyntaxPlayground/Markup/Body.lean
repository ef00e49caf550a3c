import SyntaxPlayground.Markup.Foreign
import SyntaxPlayground.Markup.Misnesting
import SyntaxPlayground.Markup.Token

/-!
# Rules for the body

What each token does in running content. The rules for tables and for choices fall back on these.
-/

namespace SyntaxPlayground

/-- What reading a token leads to: a builder, and a token to be read again in it, if there is one. -/
abbrev Reading := Builder × Option Token

namespace Builder

/-- The token has done its work. -/
def done (b : Builder) : Reading :=
  (b, none)

/-- A token is to be read in the mode that the builder is in now. -/
def again (t : Token) (b : Builder) : Reading :=
  (b, some t)

/-! ## Metadata and templates -/

/-- Opens a template. In a drawing or a formula all that follows is passed over. -/
def openTemplate (attrs : Attributes) (b : Builder) : Builder :=
  if b.stack.any fun e => !(e.space = .html) then { b with mode := .ignore }
  else
    let b := (b.openTag (utf8 "template") attrs).pushMarker
    { b with mode := .template, templates := .template :: b.templates }

/-- Closes the innermost template with all that is in it. -/
def closeTemplate (b : Builder) : Builder :=
  if !b.inTemplate then b
  else
    let b := b.closeImplied none
    let b := { b with stack := (b.stack.dropWhile fun e => !OpenElement.plays e .template).drop 1 }
    let b := b.clearFormatting
    resetMode { b with templates := b.templates.drop 1 }

/-- An opening tag of metadata or of a template. -/
def openHead (tag : Text) (attrs : Attributes) (b : Builder) : Builder :=
  match TagRole.ofTag tag with
  | .metadata => b.addVoid tag attrs
  | .metadataText => b.openText tag attrs
  | .template => b.openTemplate attrs
  | _ => b

/-! ## Text -/

/-- Text without a newline at its start. -/
def dropNewline (t : Text) : Text :=
  let t := if t.head? = some 13 then t.drop 1 else t
  if t.head? = some 10 then t.drop 1 else t

/-- Text in running content: it takes up formatting again, without NUL, and without the newline right
after the tag of preformatted text. -/
def bodyText (t : Text) (b : Builder) : Builder :=
  let t := if b.current.role = .preformatted && b.currentIsEmpty then dropNewline t else t
  let t := t.filter (· ≠ 0)
  if t.isEmpty then b else b.resumeFormatting.insertText t

/-! ## Opening tags -/

/-- A link ends the link before it. -/
def openAnchor (tag : Text) (attrs : Attributes) (b : Builder) : Builder :=
  let b :=
    match b.formattingTag? tag with
    | some e => ((b.endFormatting tag).dropOpen e.number).dropFormatting e.number
    | none => b
  b.resumeFormatting.openFormatting tag attrs

/-- Text that is not to be broken ends such text before it. -/
def openUnbroken (tag : Text) (attrs : Attributes) (b : Builder) : Builder :=
  let b := b.resumeFormatting
  let b :=
    if b.inScope .ordinary (·.tag = tag) then (b.endFormatting tag).resumeFormatting else b
  b.openFormatting tag attrs

/-- A form, of which there is only one outside templates. -/
def openForm (tag : Text) (attrs : Attributes) (b : Builder) : Builder :=
  if b.form.isSome && !b.inTemplate then b
  else
    let b := b.closeParagraph.openTag tag attrs
    if b.inTemplate then b else { b with form := some b.current.number }

/-- Opens a drawing or a formula. -/
def openForeign (space : Namespace) (tag : Text) (attrs : Attributes) (slashed : Bool)
    (b : Builder) : Builder :=
  let b := b.openIn space (Foreign.tagIn space tag) (Foreign.attrsIn space attrs)
  if slashed then b.pop else b

/-- Whether the element that annotations stand in is in scope. -/
def inRuby (b : Builder) : Bool :=
  b.inScope .ordinary (·.tag = utf8 "ruby")

/-- An opening tag in running content. -/
def openBody (tag : Text) (attrs : Attributes) (slashed : Bool) (b : Builder) : Builder :=
  match TagRole.ofTag tag with
  | .html | .page | .caption | .columnGroup | .column | .rowGroup | .row | .cell => b
  | .metadata | .metadataText | .template => b.openHead tag attrs
  | .block | .paragraph | .preformatted | .plaintext => b.closeParagraph.openTag tag attrs
  | .heading =>
    let b := b.closeParagraph
    (if b.current.role = .heading then b.pop else b).openTag tag attrs
  | .form => b.openForm tag attrs
  | .item => (b.closeItem .item).closeParagraph.openTag tag attrs
  | .definition => (b.closeItem .definition).closeParagraph.openTag tag attrs
  | .button => (b.closeTo .ordinary (·.role = .button)).resumeFormatting.openTag tag attrs
  | .anchor => b.openAnchor tag attrs
  | .formatting => b.resumeFormatting.openFormatting tag attrs
  | .unbroken => b.openUnbroken tag attrs
  | .embedded => (b.resumeFormatting.openTag tag attrs).pushMarker
  | .table => { b.closeParagraph.openTag tag attrs with mode := .table }
  | .void => b.resumeFormatting.addVoid tag attrs
  | .image => b.resumeFormatting.addVoid (utf8 "img") attrs
  | .voidPart => b.addVoid tag attrs
  | .rule => b.closeParagraph.addVoid tag attrs
  | .textarea | .iframe | .noembed | .noscript => b.openText tag attrs
  | .xmp => b.closeParagraph.resumeFormatting.openText tag attrs
  | .select => { b.resumeFormatting.openTag tag attrs with mode := .select }
  | .option | .optionGroup =>
    (if b.current.role = .option then b.pop else b).resumeFormatting.openTag tag attrs
  | .rubyBase => (if b.inRuby then b.closeImplied none else b).openTag tag attrs
  | .rubyText => (if b.inRuby then b.closeImplied (some (utf8 "rtc")) else b).openTag tag attrs
  | .math => b.resumeFormatting.openForeign .math tag attrs slashed
  | .svg => b.resumeFormatting.openForeign .svg tag attrs slashed
  | .other => b.resumeFormatting.openTag tag attrs

/-! ## Closing tags -/

/-- Ends a form. Elements that are still open in it stay open. -/
def closeForm (b : Builder) : Builder :=
  let isForm (e : OpenElement) : Bool := e.role = .form
  if b.inTemplate then
    if b.inScope .ordinary isForm then (b.closeImplied none).closeTo .ordinary isForm else b
  else
    let form := b.form
    let b := { b with form := none }
    match form, Scope.distance? .ordinary isForm b.stack with
    | some n, some d =>
      if ((b.stack.drop (d - 1)).head?.map (·.number)) = some n then (b.closeImplied none).dropOpen n
      else b
    | _, _ => b

/-- Ends a paragraph. Where none is open there is an empty one. -/
def closeOrAddParagraph (tag : Text) (b : Builder) : Builder :=
  let isParagraph (e : OpenElement) : Bool := e.role = .paragraph
  let b :=
    if b.inScope .button isParagraph then b
    else if b.current.space = .html || b.current.holdsPage || b.current.isMathText then
      b.openTag tag []
    else b.openForeign b.current.space tag [] false
  b.closeTo .button isParagraph

/-- A closing tag in running content. -/
def closeBody (tag : Text) (b : Builder) : Reading :=
  match TagRole.ofTag tag with
  | .html => b.done
  | .page => (if tag = utf8 "body" then b else b.closeStray tag).done
  | .block | .button | .preformatted | .definition => (b.closeTo .ordinary (·.tag = tag)).done
  | .form => b.closeForm.done
  | .paragraph => (b.closeOrAddParagraph tag).done
  | .item => (b.closeTo .list (·.role = .item)).done
  | .heading => (b.closeTo .ordinary (·.role = .heading)).done
  | .anchor | .formatting | .unbroken => (b.endFormatting tag).done
  | .embedded => (((b.closeTo? .ordinary (·.tag = tag)).map clearFormatting).getD b).done
  | .template => b.closeTemplate.done
  | _ => if tag = utf8 "br" then b.again (.opening tag [] false) else (b.closeStray tag).done

/-- A token in running content. -/
def readBody (t : Token) (b : Builder) : Reading :=
  match t with
  | .text s => (b.bodyText s).done
  | .opening tag attrs slashed => (b.openBody tag attrs slashed).done
  | .closing tag => b.closeBody tag
  | .comment s => (b.insert (.comment s)).done

/-- A token in an element whose content is text. -/
def readText (t : Token) (b : Builder) : Reading :=
  match t with
  | .text s =>
    (b.insertText (if b.current.role = .textarea && b.currentIsEmpty then dropNewline s else s)).done
  | .closing _ => { b.pop with mode := b.resume }.done
  | t => { b with mode := b.resume }.again t

end Builder

end SyntaxPlayground
