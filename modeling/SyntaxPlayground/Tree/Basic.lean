import SyntaxPlayground.Text.Decimal

/-!
# Syntax trees

A node has a kind, the level it was found at, the source span it came from (some nodes have none)
and its children in document order. `visit` is the pre-order walk everything else is written with.
-/

namespace SyntaxPlayground

/-- The half-open interval from `start` to `stop` of the source text. -/
structure Span where
  start : Int
  stop : Int
deriving DecidableEq, Repr

namespace Span

/-- A span as the compiler writes it, `@start..stop`. -/
def text (s : Span) : Text :=
  utf8 "@" ++ Text.ofInt s.start ++ utf8 ".." ++ Text.ofInt s.stop

end Span

/-- A syntax tree. -/
inductive Tree where
  | node (kind : Text) (level : Nat) (span : Option Span) (children : List Tree)
deriving Repr

namespace Tree

/-- What the node is: `Program`, `IfStatement`, `Identifier(a)`. -/
def kind : Tree → Text
  | node k _ _ _ => k

/-- The depth that the indentation of the dump gave the node; the root has level 0. -/
def level : Tree → Nat
  | node _ l _ _ => l

/-- Where in the source the node stands. -/
def span : Tree → Option Span
  | node _ _ s _ => s

/-- The children in document order. -/
def children : Tree → List Tree
  | node _ _ _ cs => cs

/-- The text shown for a node: its kind, and its span if it has one. -/
def label (t : Tree) : Text :=
  match t.span with
  | none => t.kind
  | some s => t.kind ++ utf8 " " ++ s.text

mutual

/-- The nodes that a pre-order walk meets, each with its depth, when the walk goes below a node
only if `enter` allows it. -/
def visitFrom (enter : Nat → Tree → Bool) (depth : Nat) : Tree → List (Nat × Tree)
  | node k l s cs =>
    (depth, node k l s cs) ::
      if enter depth (node k l s cs) then visitAll enter (depth + 1) cs else []

/-- The walk through a list of siblings. -/
def visitAll (enter : Nat → Tree → Bool) (depth : Nat) : List Tree → List (Nat × Tree)
  | [] => []
  | t :: ts => visitFrom enter depth t ++ visitAll enter depth ts

end

/-- The walk that starts at the root, which has depth 0. -/
def visit (enter : Nat → Tree → Bool) (t : Tree) : List (Nat × Tree) :=
  visitFrom enter 0 t

/-- All nodes in pre-order, each with its depth. -/
def preorder (t : Tree) : List (Nat × Tree) :=
  t.visit fun _ _ => true

/-- The number of nodes. -/
def count (t : Tree) : Nat :=
  t.preorder.length

end Tree

end SyntaxPlayground
