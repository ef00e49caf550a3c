import SyntaxPlayground.Markup.Choice
import SyntaxPlayground.Text.Fold

/-!
# Reading markup

The lexer and the builder run together, a byte at a time: each token goes into the tree at once,
because what is open decides how the next one is read. Any text can be read, unless more elements are
open at once than `maxOpen`.
-/

namespace SyntaxPlayground

/-- Why markup cannot be read. -/
inductive MarkupError where
  /-- Too many elements are open at once. -/
  | tooDeep
deriving DecidableEq, Repr

namespace MarkupError

/-- The text shown for the error. -/
def message : MarkupError → Text
  | tooDeep => utf8 "html: open stack of elements exceeds 512 nodes"

end MarkupError

/-- The most elements that may be open at once, the one around the fragment included. -/
def maxOpen : Nat := 512

namespace Builder

/-! ## One token -/

/-- Reads a token by the rules of the mode. -/
def readInMode (t : Token) (b : Builder) : Reading :=
  match b.mode with
  | .body => b.readBody t
  | .text => b.readText t
  | .table => b.readTable t
  | .caption => b.readCaption t
  | .columns => b.readColumns t
  | .tableBody => b.readTableBody t
  | .row => b.readRow t
  | .cell => b.readCell t
  | .select => b.readSelect t
  | .selectInTable => b.readSelectInTable t
  | .template => b.readTemplate t
  | .ignore => b.done

/-- The tags that belong to a formula even among its text. -/
def mathOnlyTags : List Text :=
  ["malignmark", "mglyph"].map utf8

/-- Whether a token belongs to a drawing or a formula. -/
def isForeign (t : Token) (b : Builder) : Bool :=
  let e := b.current
  match e.space, t with
  | .html, _ => false
  | _, .text _ => !(e.isMathText || e.holdsPage)
  | _, .opening tag .. =>
    !(e.isMathText && !mathOnlyTags.contains tag || e.holdsPage ||
      e.space = .math && e.tag == OpenElement.annotationTag && tag == utf8 "svg")
  | _, _ => true

/-- How many elements a closing tag closes in a drawing or a formula; nothing if it is for an element
outside. -/
def foreignDistance? (tag : Text) : List OpenElement → Option Nat
  | [] => none
  | e :: es =>
    if e.space = .html then none
    else if e.tag.folded = tag.folded then some 1
    else (foreignDistance? tag es).map (· + 1)

/-- Reads a token in a drawing or a formula. -/
def readForeign (t : Token) (b : Builder) : Reading :=
  match t with
  | .text s => (b.insertText (Token.withoutNul s)).done
  | .comment s => (b.insert (.comment s)).done
  | .opening tag attrs slashed =>
    { b.openForeign b.current.space tag attrs slashed with readsTags := true }.done
  | .closing tag =>
    match foreignDistance? tag b.stack with
    | some d => { b with stack := b.stack.drop d }.done
    | none => b.readInMode t

/-- Reads a token, and reads it again as long as the rules ask for it, `n` times at most. -/
def readTimes : Nat → Token → Builder → Builder
  | 0, _, b => b
  | n + 1, t, b =>
    match if b.isForeign t then b.readForeign t else b.readInMode t with
    | (b, none) => b
    | (b, some t) => readTimes n t b

/-- Reads a token. Reading it again closes elements, so that it is not read again for long. -/
def read (t : Token) (b : Builder) : Builder :=
  readTimes (4 * b.stack.length + 16) t { b with readsTags := false }

/-- Whether a section without tags may begin here. -/
def allowsSections (b : Builder) : Bool :=
  !(b.current.space = .html)

/-- The nodes that were read. -/
def nodes (b : Builder) : List Markup :=
  b.root.markup.children

end Builder

/-- The lexer and the builder. -/
structure MarkupReader where
  lexer : LexState
  builder : Builder

namespace MarkupReader

/-- Takes in a token. The content of an element is read as its name says, unless the rules say that
it has tags. -/
def accept (r : MarkupReader) (t : Token) : MarkupReader :=
  let b := r.builder.read t
  match t with
  | .opening tag .. =>
    { lexer := if b.readsTags then r.lexer else .afterOpening tag, builder := b }
  | _ => { r with builder := b }

/-- Reads one byte. -/
def step (r : MarkupReader) (b : UInt8) : MarkupReader :=
  let (lexer, tokens) := r.lexer.step r.builder.allowsSections b
  tokens.foldl accept { r with lexer := lexer }

/-- Reads the rest of a text. -/
def run (r : MarkupReader) : Text → Except MarkupError Builder
  | [] =>
    let b := (r.lexer.finish r.builder.allowsSections).foldl (fun b t => b.read t) r.builder
    if maxOpen < b.deepest then .error .tooDeep else .ok b
  | b :: t =>
    let r := r.step b
    if maxOpen < r.builder.deepest then .error .tooDeep else run r t

end MarkupReader

namespace Markup

/-- The fragment that a text encodes. -/
def read (t : Text) : Except MarkupError (List Markup) :=
  (MarkupReader.run ⟨.text [], .empty⟩ t).map Builder.nodes

end Markup

end SyntaxPlayground
