import SyntaxPlayground.Markup.Basic

/-!
# Writing markup

Text and attribute values escape `&`, `'`, `<`, `>`, `"` and the carriage return and leave every
other byte as it is; attributes are double-quoted, in order. Elements that never have content are
written `<br/>`. The text of scripts, styles and the like is not escaped. An element that reading
would take a first newline from gets one more.
-/

namespace SyntaxPlayground

namespace Text

/-- One byte of text or of an attribute value. -/
def escapeByte (b : UInt8) : Text :=
  if b = 38 then utf8 "&amp;"
  else if b = 39 then utf8 "&#39;"
  else if b = 60 then utf8 "&lt;"
  else if b = 62 then utf8 "&gt;"
  else if b = 34 then utf8 "&#34;"
  else if b = 13 then utf8 "&#13;"
  else [b]

/-- A text written so that it reads back as text. -/
def escaped (t : Text) : Text :=
  t.flatMap escapeByte

/-- The content of a comment: `&` is always escaped, and `>` where it would end the comment, at
the start and after `!` or `-`. -/
def escapedComment (t : Text) : Text :=
  go 33 t
where
  /-- `last` is the byte before the rest. -/
  go (last : UInt8) : Text → Text
    | [] => []
    | b :: t =>
      if b = 38 then utf8 "&amp;" ++ go b t
      else if b = 62 ∧ (last = 33 ∨ last = 45) then utf8 "&gt;" ++ go b t
      else b :: go b t

end Text

namespace Attribute

/-- An attribute as it stands in a tag, after a space. -/
def write (a : Attribute) : Text :=
  utf8 " " ++ a.name ++ utf8 "=\"" ++ a.value.escaped ++ utf8 "\""

end Attribute

/-- The elements that never have content. -/
def voidTags : List Text :=
  ["area", "base", "br", "col", "embed", "hr", "img", "input", "keygen", "link", "meta", "param",
    "source", "track", "wbr"].map utf8

/-- The elements of a page whose text is written as it stands. -/
def verbatimTags : List Text :=
  ["iframe", "noembed", "noframes", "noscript", "plaintext", "script", "style", "xmp"].map utf8

/-- The elements whose content loses a newline at its start when it is read. -/
def newlineTags : List Text :=
  ["pre", "listing", "textarea"].map utf8

/-- The element that cannot be closed. -/
def plaintextTag : Text := utf8 "plaintext"

namespace Markup

/-- Whether some siblings begin with text that begins with a newline. -/
def beginWithNewline : List Markup → Bool
  | text (b :: _) :: _ => b == 10
  | _ => false

/-- Whether the text of an element is written as it stands. -/
def isVerbatim (space : Namespace) (tag : Text) : Bool :=
  space = .html && verbatimTags.contains tag

/-- Some markup as text. Writing cannot go on after an element that cannot be closed or that has
content it must not have; then the text stops there and `goesOn` is false. -/
structure Written where
  text : Text
  goesOn : Bool
deriving DecidableEq, Repr

namespace Written

/-- Two pieces one after the other, as far as writing goes. -/
def andThen (w v : Written) : Written :=
  if w.goesOn then ⟨w.text ++ v.text, v.goesOn⟩ else w

end Written

mutual

/-- A node as text, as far as writing goes. -/
def written (verbatim : Bool) : Markup → Written
  | element space t as cs =>
    let head := utf8 "<" ++ t ++ as.flatMap Attribute.write
    if voidTags.contains t then
      if cs.isEmpty then ⟨head ++ utf8 "/>", true⟩ else ⟨head, false⟩
    else
      let newline := if newlineTags.contains t && beginWithNewline cs then utf8 "\n" else []
      let unclosed := space = .html && t == plaintextTag
      (Written.andThen ⟨head ++ utf8 ">" ++ newline, true⟩
        (writtenAll (isVerbatim space t) cs)).andThen
        (if unclosed then ⟨[], false⟩ else ⟨utf8 "</" ++ t ++ utf8 ">", true⟩)
  | text s => ⟨if verbatim then s else s.escaped, true⟩
  | comment s => ⟨utf8 "<!--" ++ s.escapedComment ++ utf8 "-->", true⟩

/-- Siblings as text, as far as writing goes. -/
def writtenAll (verbatim : Bool) : List Markup → Written
  | [] => ⟨[], true⟩
  | m :: ms => (written verbatim m).andThen (writtenAll verbatim ms)

end

/-- A node as text. -/
def write (m : Markup) : Text :=
  (written false m).text

/-- Siblings as text, each as far as it can be written. -/
def writeAll (ms : List Markup) : Text :=
  ms.flatMap write

end Markup

end SyntaxPlayground
