import SyntaxPlayground.Markdown.Block
import SyntaxPlayground.Text.Case

/-!
# Sample programs

A catalog of sample programs is a markdown document. Every heading of the second level opens a
sample; its first paragraph is the description and its first fenced code the source. A heading of
the first or second level ends it. Samples without source are dropped, and of several with one name
the last one counts.
-/

namespace SyntaxPlayground

/-- A sample program. -/
structure Sample where
  name : Text
  description : Text := []
  source : Text := []
deriving DecidableEq, Repr, Inhabited

/-- A name that no sample has. -/
structure UnknownSample where
  name : Text
deriving DecidableEq, Repr

namespace UnknownSample

/-- The text shown for the error. -/
def message (e : UnknownSample) : Text :=
  utf8 "unknown sample: " ++ e.name

end UnknownSample

/-- Samples by name: in order of their names, which are all different. -/
abbrev Catalog := List Sample

namespace Catalog

/-- The name that a heading gives: its words in small letters, with hyphens between them. -/
def nameOf (heading : Text) : Text :=
  Text.join [45] heading.lower.words

/-- Puts a sample in its place, where it replaces one of the same name. -/
def put (s : Sample) : Catalog → Catalog
  | [] => [s]
  | t :: c =>
    if s.name = t.name then s :: c
    else if s.name.before t.name then s :: t :: c
    else t :: put s c

/-- A catalog that is being read and the sample that is open. -/
structure Draft where
  catalog : Catalog := []
  current : Option Sample := none
deriving DecidableEq, Repr

namespace Draft

/-- Ends the open sample, which is kept if it has a source. -/
def flush (d : Draft) : Draft :=
  match d.current with
  | none => d
  | some s => ⟨if s.source = [] then d.catalog else put s d.catalog, none⟩

/-- Reads a block. -/
def step (d : Draft) (b : Markdown.Block) : Draft :=
  match b, d.current with
  | .heading level text, _ =>
    if 2 < level then d
    else
      let d := d.flush
      if level = 2 then { d with current := some { name := nameOf text } } else d
  | .paragraph text, some s =>
    if s.description = [] ∧ s.source = [] then
      { d with current := some { s with description := text.trim } }
    else d
  | .fenced text, some s =>
    if s.source = [] then { d with current := some { s with source := text } } else d
  | _, _ => d

end Draft

/-- The catalog that some blocks hold. -/
def ofBlocks (blocks : List Markdown.Block) : Catalog :=
  (blocks.foldl Draft.step {}).flush.catalog

/-- The catalog that a document holds. -/
def ofMarkdown (t : Text) : Catalog :=
  ofBlocks (Markdown.blocksOf t)

/-- The sample with the given name, in letters of any case. -/
def get (c : Catalog) (name : Text) : Except UnknownSample Sample :=
  match c.find? (·.name == name.lower) with
  | some s => .ok s
  | none => .error ⟨name⟩

/-- The document of the samples that come with the playground. -/
def builtinDocument : Text :=
  List.flatMap (fun line => utf8 line ++ [10]) [
    "# Sample programs",
    "",
    "Each second-level heading names a sample. The first fenced block below it is",
    "the sample's source.",
    "",
    "## fibonacci",
    "",
    "Recursive Fibonacci, printing the tenth number.",
    "",
    "```c",
    "int fibonacci(int a) \x7b",
    "  if (a < 2) \x7b",
    "    return a;",
    "  \x7d",
    "  return fibonacci(a - 1) + fibonacci(a - 2);",
    "\x7d",
    "void main() \x7b",
    "  print(fibonacci(10));",
    "\x7d",
    "```",
    "",
    "## bubble-sort",
    "",
    "In-place bubble sort over a five element array.",
    "",
    "```c",
    "void bubbleSort(int a[], int len) \x7b",
    "   int i = len - 1;",
    "   while (i > 0) \x7b",
    "      int j = 0;",
    "      while (j < i) \x7b",
    "         if (a[j] > a[j + 1]) \x7b",
    "            int tem = a[j];",
    "            a[j] = a[j + 1];",
    "            a[j + 1] = tem;",
    "         \x7d",
    "         j = j + 1;",
    "      \x7d",
    "      i = i- 1;",
    "   \x7d",
    "\x7d",
    "void main() \x7b",
    "   int a[5];",
    "   a[0] = 4;",
    "   a[1] = 10;",
    "   a[2] = 1;",
    "   a[3] = 7;",
    "   a[4] = 2;",
    "   bubbleSort(a, 5);",
    "   print(a);",
    "\x7d",
    "```"]

/-- The samples that come with the playground. -/
def builtin : Catalog :=
  ofMarkdown builtinDocument

end Catalog

end SyntaxPlayground
