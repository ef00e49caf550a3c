import SyntaxPlayground.Text.Basic

/-!
# What tags do

When markup is read, the name of a tag decides how it fits into what is open: whether it closes a
paragraph, belongs in a table, is continued after a misplaced end, and so on. Names that share all
of this share a role.
-/

namespace SyntaxPlayground

/-- The part that a tag plays when markup is read. -/
inductive TagRole where
  /-- The outermost element. -/
  | html
  /-- Parts of a whole page, which a fragment has no place for. -/
  | page
  /-- Empty elements about the page. -/
  | metadata
  /-- Text about the page that is read without tags. -/
  | metadataText
  /-- Content kept for later. -/
  | template
  /-- Containers. -/
  | block
  | paragraph
  | heading
  /-- Text that keeps its line ends. -/
  | preformatted
  | form
  | item
  /-- Terms and their descriptions. -/
  | definition
  | plaintext
  | button
  | anchor
  /-- Inline elements that are continued when a block ends inside them or they end inside a block. -/
  | formatting
  | unbroken
  /-- Embedded content that formatting does not reach into. -/
  | embedded
  | table
  | caption
  | columnGroup
  | column
  /-- Head, body and foot of a table. -/
  | rowGroup
  | row
  | cell
  /-- Empty inline elements. -/
  | void
  /-- Empty elements inside others. -/
  | voidPart
  | rule
  | image
  | textarea
  | xmp
  | iframe
  | noembed
  | noscript
  | select
  | option
  | optionGroup
  /-- Bases and containers of annotations. -/
  | rubyBase
  /-- Annotations. -/
  | rubyText
  | math
  | svg
  /-- Everything else. -/
  | other
deriving DecidableEq, Repr

namespace TagRole

/-- The names that have a role. -/
def names : List (Text × TagRole) :=
  ([(html, ["html"]), (page, ["body", "frame", "frameset", "head"]),
    (metadata, ["base", "basefont", "bgsound", "link", "meta"]),
    (metadataText, ["noframes", "script", "style", "title"]), (template, ["template"]),
    (block, ["address", "article", "aside", "blockquote", "center", "details", "dialog", "dir",
      "div", "dl", "fieldset", "figcaption", "figure", "footer", "header", "hgroup", "main", "menu",
      "nav", "ol", "section", "summary", "ul"]),
    (paragraph, ["p"]), (heading, ["h1", "h2", "h3", "h4", "h5", "h6"]),
    (preformatted, ["listing", "pre"]), (form, ["form"]), (item, ["li"]),
    (definition, ["dd", "dt"]), (plaintext, ["plaintext"]), (button, ["button"]), (anchor, ["a"]),
    (formatting, ["b", "big", "code", "em", "font", "i", "s", "small", "strike", "strong", "tt",
      "u"]),
    (unbroken, ["nobr"]), (embedded, ["applet", "marquee", "object"]), (table, ["table"]),
    (caption, ["caption"]), (columnGroup, ["colgroup"]), (column, ["col"]),
    (rowGroup, ["tbody", "tfoot", "thead"]), (row, ["tr"]), (cell, ["td", "th"]),
    (void, ["area", "br", "embed", "img", "input", "keygen", "wbr"]),
    (voidPart, ["param", "source", "track"]), (rule, ["hr"]), (image, ["image"]),
    (textarea, ["textarea"]), (xmp, ["xmp"]), (iframe, ["iframe"]), (noembed, ["noembed"]),
    (noscript, ["noscript"]), (select, ["select"]), (option, ["option"]),
    (optionGroup, ["optgroup"]), (rubyBase, ["rb", "rtc"]), (rubyText, ["rp", "rt"]),
    (math, ["math"]), (svg, ["svg"])] : List (TagRole × List String)).flatMap
    fun (role, names) => names.map fun name => (utf8 name, role)

/-- The role of a name. -/
def ofTag (tag : Text) : TagRole :=
  (names.lookup tag).getD other

/-- The places in a table where only parts of the table belong. -/
def isTablePlace : TagRole → Bool
  | table | rowGroup | row => true
  | _ => false

/-- Whether the end of the element is implied by the end of what it stands in. -/
def endIsImplied : TagRole → Bool
  | definition | item | optionGroup | option | paragraph | rubyBase | rubyText => true
  | _ => false

end TagRole

/-- The elements that structure a page. A misplaced end tag does not reach out of them. -/
def specialTags : List Text :=
  ["address", "applet", "area", "article", "aside", "base", "basefont", "bgsound", "blockquote",
    "body", "br", "button", "caption", "center", "col", "colgroup", "dd", "details", "dir", "div",
    "dl", "dt", "embed", "fieldset", "figcaption", "figure", "footer", "form", "frame", "frameset",
    "h1", "h2", "h3", "h4", "h5", "h6", "head", "header", "hgroup", "hr", "html", "iframe", "img",
    "input", "keygen", "li", "link", "listing", "main", "marquee", "menu", "meta", "nav",
    "noembed", "noframes", "noscript", "object", "ol", "p", "param", "plaintext", "pre", "script",
    "section", "select", "source", "style", "summary", "table", "tbody", "td", "template",
    "textarea", "tfoot", "th", "thead", "title", "tr", "track", "ul", "wbr", "xmp"].map utf8

/-- The elements whose content is text up to their end tag, whatever it looks like. -/
def rawTags : List Text :=
  ["iframe", "noembed", "noframes", "noscript", "plaintext", "script", "style", "textarea", "title",
    "xmp"].map utf8

/-- The elements of `rawTags` in whose text references are decoded. -/
def decodedTags : List Text :=
  ["textarea", "title"].map utf8

end SyntaxPlayground
