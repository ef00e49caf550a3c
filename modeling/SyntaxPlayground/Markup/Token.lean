import SyntaxPlayground.Markup.Basic
import SyntaxPlayground.Markup.RawText
import SyntaxPlayground.Markup.Reference

/-!
# Tokens of markup

The lexer reads a byte at a time. What lies between tags is text, a `<` that opens nothing is text
too, and a tag that the input ends in the middle of is dropped. Names are lower-cased, line ends are
unified, and references are decoded where they count.

Two things depend on what the tokens before have opened: whether `<![CDATA[` begins text, and whether
the content of an element is read without tags. The reader says so from outside.
-/

namespace SyntaxPlayground

/-- A token of markup. -/
inductive Token where
  | text (content : Text)
  /-- An opening tag; `slashed` if it ends in `/>`. -/
  | opening (tag : Text) (attrs : Attributes) (slashed : Bool)
  | closing (tag : Text)
  | comment (content : Text)
deriving DecidableEq, Repr

namespace Token

/-- The text with U+FFFD for every NUL. -/
def withoutNul (t : Text) : Text :=
  t.flatMap fun b => if b = 0 then encodeScalar replacementScalar else [b]

/-- Ordinary text. What is to become of NUL depends on where the text ends up. -/
def ofText (raw : Text) : Token :=
  .text (raw.unifyNewlines.decodeReferences false)

/-- Text in a section that has no tags. -/
def ofSection (raw : Text) : Token :=
  .text ((withoutNul raw.unifyNewlines).decodeReferences false)

/-- Text in an element that has no tags. -/
def ofRawText (tag raw : Text) : Token :=
  let t := withoutNul raw.unifyNewlines
  .text (if decodedTags.contains tag then t.decodeReferences false else t)

/-- A comment. -/
def ofComment (raw : Text) : Token :=
  .comment ((withoutNul raw.unifyNewlines).decodeReferences false)

end Token

/-- A tag being read: whether it closes, its name, and its finished attributes in reverse. -/
structure TagDraft where
  closes : Bool
  name : Text
  attrs : List Attribute := []
deriving DecidableEq, Repr

namespace TagDraft

/-- The tag with one more attribute, whose name and value collected in reverse. -/
def save (d : TagDraft) (name value : Text) : TagDraft :=
  { d with
    attrs := ⟨name.reverse.map Text.lowerByte,
      (Text.unifyNewlines value.reverse).decodeReferences true⟩ :: d.attrs }

/-- The finished tag. -/
def token (d : TagDraft) (slashed : Bool) : Token :=
  let name := d.name.reverse.map Text.lowerByte
  if d.closes then .closing name else .opening name d.attrs.reverse slashed

end TagDraft

/-- Where the lexer stands. The parts read so far collect in reverse. -/
inductive LexState where
  /-- In text. -/
  | text (acc : Text)
  /-- After `<`. -/
  | less (acc : Text)
  /-- After `</`. -/
  | lessSlash
  /-- In the name of a tag. -/
  | tagName (tag : TagDraft)
  /-- Before an attribute or the end of a tag; `slash` if the last byte was one. -/
  | beforeAttr (tag : TagDraft) (slash : Bool)
  /-- In the name of an attribute. -/
  | attrName (tag : TagDraft) (name : Text)
  /-- After the name of an attribute and white space. -/
  | afterAttr (tag : TagDraft) (name : Text)
  /-- After the `=` of an attribute. -/
  | beforeValue (tag : TagDraft) (name : Text)
  /-- In a value between quotes. -/
  | quotedValue (tag : TagDraft) (name : Text) (quote : UInt8) (acc : Text)
  /-- In a value without quotes. -/
  | bareValue (tag : TagDraft) (name : Text) (acc : Text)
  /-- After `<!`. -/
  | declaration (acc : Text)
  /-- After `<!>`. -/
  | emptyDeclaration
  /-- In a comment; `dashes` counts the dashes just read, `fresh` says that only dashes were. -/
  | comment (acc : Text) (dashes : Nat) (fresh : Bool)
  /-- In a comment after `--!`. -/
  | commentBang (acc : Text)
  /-- In something that is skipped up to `>` and kept as a comment. -/
  | bogus (acc : Text)
  /-- In a section without tags; `brackets` counts the `]` just read. -/
  | cdata (acc : Text) (brackets : Nat)
  /-- In the content of an element that has no tags. -/
  | raw (tag : Text) (acc : Text) (watch : Watch)
deriving DecidableEq, Repr

namespace LexState

/-- Where the lexer stands after an opening tag whose content is read as its name says. -/
def afterOpening (tag : Text) : LexState :=
  if rawTags.contains tag then .raw tag [] (.ofTag tag) else .text []

/-- The text token for what was collected, if anything was. -/
def textToken (acc : Text) : List Token :=
  if acc.isEmpty then [] else [.ofText acc.reverse]

/-- The name of a document type. -/
def doctypeName : Text := utf8 "doctype"

/-- The beginning of a section without tags, after its `<!`. -/
def cdataStart : Text := utf8 "[CDATA["

/-- A declaration is dropped if it is a document type, and a comment otherwise. -/
def declarationToken (acc : Text) : List Token :=
  let raw := acc.reverse
  if doctypeName.isPrefixOf (raw.map Text.lowerByte) then [] else [.ofComment raw]

/-- Reads one byte of something kept as a comment. -/
def stepBogus (acc : Text) (b : UInt8) : LexState × List Token :=
  if b = 62 then (.text [], [.ofComment acc.reverse]) else (.bogus (b :: acc), [])

/-- Reads one byte of a declaration. -/
def stepDeclaration (cdata : Bool) (acc : Text) (b : UInt8) : LexState × List Token :=
  if b = 62 then
    if acc.isEmpty then (.emptyDeclaration, []) else (.text [], declarationToken acc)
  else
    let raw := (b :: acc).reverse
    if raw = utf8 "--" then (.comment [] 0 true, [])
    else if cdata && raw == cdataStart then (.cdata [] 0, [])
    else (.declaration (b :: acc), [])

/-- Reads one byte of text. -/
def stepText (acc : Text) (b : UInt8) : LexState × List Token :=
  if b = 60 then (.less acc, []) else (.text (b :: acc), [])

/-- Reads one byte of the name of a tag. -/
def stepTagName (tag : TagDraft) (b : UInt8) : LexState × List Token :=
  if Text.isTagSpace b || b == 47 then (.beforeAttr tag (b == 47), [])
  else if b = 62 then (.text [], [tag.token false])
  else (.tagName { tag with name := b :: tag.name }, [])

/-- Reads one byte where an attribute may start. -/
def stepBeforeAttr (tag : TagDraft) (slash : Bool) (b : UInt8) : LexState × List Token :=
  if Text.isTagSpace b || b == 47 then (.beforeAttr tag (b == 47), [])
  else if b = 62 then (.text [], [tag.token slash])
  else (.attrName tag [b], [])

/-- Reads one byte of the content of an element that has no tags. The byte after the name in the end
tag goes on with that tag. -/
def stepRaw (tag acc : Text) (watch : Watch) (b : UInt8) : LexState × List Token :=
  match watch.step tag b with
  | some watch => (.raw tag (b :: acc) watch, [])
  | none =>
    let content := acc.drop (Watch.endOf tag).length
    let (s, tokens) := stepTagName ⟨true, tag.reverse, []⟩ b
    (s, if content.isEmpty then tokens else .ofRawText tag content.reverse :: tokens)

/-- Reads one byte: the next state and the tokens finished by it. -/
def step (cdata : Bool) (s : LexState) (b : UInt8) : LexState × List Token :=
  match s with
  | .text acc => stepText acc b
  | .less acc =>
    if Text.isLetter b then (.tagName ⟨false, [b], []⟩, textToken acc)
    else if b = 47 then (.lessSlash, textToken acc)
    else if b = 33 then (.declaration [], textToken acc)
    else if b = 63 then (.bogus [b], textToken acc)
    else if b = 60 then (.less (60 :: acc), [])
    else (.text (b :: 60 :: acc), [])
  | .lessSlash =>
    if b = 62 then (.text [], [.comment []])
    else if Text.isLetter b then (.tagName ⟨true, [b], []⟩, [])
    else (.bogus [b], [])
  | .tagName tag => stepTagName tag b
  | .beforeAttr tag slash => stepBeforeAttr tag slash b
  | .attrName tag name =>
    if b = 61 then (.beforeValue tag name, [])
    else if Text.isTagSpace b then (.afterAttr tag name, [])
    else if b = 47 then (.beforeAttr (tag.save name []) true, [])
    else if b = 62 then (.text [], [(tag.save name []).token false])
    else (.attrName tag (b :: name), [])
  | .afterAttr tag name =>
    if Text.isTagSpace b then (.afterAttr tag name, [])
    else if b = 61 then (.beforeValue tag name, [])
    else stepBeforeAttr (tag.save name []) false b
  | .beforeValue tag name =>
    if Text.isTagSpace b then (.beforeValue tag name, [])
    else if b = 62 then (.text [], [(tag.save name []).token false])
    else if b = 34 ∨ b = 39 then (.quotedValue tag name b [], [])
    else (.bareValue tag name [b], [])
  | .quotedValue tag name quote acc =>
    if b = quote then (.beforeAttr (tag.save name acc) false, [])
    else (.quotedValue tag name quote (b :: acc), [])
  | .bareValue tag name acc =>
    if Text.isTagSpace b then (.beforeAttr (tag.save name acc) false, [])
    else if b = 62 then (.text [], [(tag.save name acc).token false])
    else (.bareValue tag name (b :: acc), [])
  | .declaration acc => stepDeclaration cdata acc b
  | .emptyDeclaration =>
    let (s, tokens) := stepText [] b
    (s, .comment [] :: tokens)
  | .comment acc dashes fresh =>
    if b = 45 then (.comment (b :: acc) (dashes + 1) fresh, [])
    else if b = 62 ∧ (2 ≤ dashes ∨ fresh) then (.text [], [.ofComment (acc.drop 2).reverse])
    else if b = 33 ∧ 2 ≤ dashes then (.commentBang (b :: acc), [])
    else (.comment (b :: acc) 0 false, [])
  | .commentBang acc =>
    if b = 62 then (.text [], [.ofComment (acc.drop 3).reverse])
    else if b = 45 then (.comment (b :: acc) 1 false, [])
    else (.comment (b :: acc) 0 false, [])
  | .bogus acc => stepBogus acc b
  | .cdata acc brackets =>
    if b = 93 then (.cdata (b :: acc) (brackets + 1), [])
    else if b = 62 ∧ 2 ≤ brackets then (.text [], [.ofSection (acc.drop 2).reverse])
    else (.cdata (b :: acc) 0, [])
  | .raw tag acc watch => stepRaw tag acc watch b

/-- A comment that the input ends in loses the beginning of its end mark. -/
def abruptComment (acc : Text) : Token :=
  match acc with
  | 33 :: 45 :: 45 :: rest => .ofComment rest.reverse
  | 45 :: 45 :: rest => .ofComment rest.reverse
  | 45 :: rest => .ofComment rest.reverse
  | rest => .ofComment rest.reverse

/-- Whether some text is the beginning of `mark` and not all of it. -/
def begins (t mark : Text) : Bool :=
  t.isPrefixOf mark && t.length < mark.length

/-- A declaration that the input ends in. What might still have become a document type or a section,
and is longer than one byte, leaves an empty comment. -/
def abruptDeclaration (cdata : Bool) (acc : Text) : List Token :=
  let raw := acc.reverse
  let unfinished := begins (raw.map Text.lowerByte) doctypeName || cdata && begins raw cdataStart
  if 2 ≤ raw.length ∧ unfinished then [.comment []] else declarationToken acc

/-- The tokens finished by the end of the input. -/
def finish (cdata : Bool) : LexState → List Token
  | .text acc => textToken acc
  | .less acc => textToken (60 :: acc)
  | .lessSlash => textToken [47, 60]
  | .declaration acc => abruptDeclaration cdata acc
  | .emptyDeclaration => [.ofComment (utf8 ">")]
  | .comment acc _ _ => [abruptComment acc]
  | .commentBang acc => [abruptComment acc]
  | .bogus acc => [.ofComment acc.reverse]
  | .cdata acc _ => [.ofSection acc.reverse]
  | .raw tag acc _ => if acc.isEmpty then [] else [.ofRawText tag acc.reverse]
  | _ => []

end LexState

end SyntaxPlayground
