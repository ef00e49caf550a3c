import SyntaxPlayground.Markup.Basic

/-!
# Markup being put together

While markup is read its tree is not final: nodes are added inside elements that are still open,
before a table that they cannot stand in, and whole elements move when tags are misnested. The
elements of a sketch are numbered, so that each can be found again wherever it has moved to. Children
stand last first, because nearly all work happens at the end, and a search looks there first.
-/

namespace SyntaxPlayground

/-- A node of a tree that still changes. -/
inductive Sketch where
  /-- An element with its number; its last child comes first. -/
  | element (number : Nat) (space : Namespace) (tag : Text) (attrs : Attributes)
      (children : List Sketch)
  /-- Text that was added piece by piece; the last piece comes first. -/
  | text (pieces : List Text)
  | comment (content : Text)
deriving Repr

namespace Sketch

mutual

/-- The finished tree. -/
def markup : Sketch → Markup
  | element _ space tag attrs children => .element space tag attrs (markupAll [] children)
  | text pieces => .text pieces.reverse.flatten
  | comment s => .comment s

/-- The finished trees of some siblings, which stand last first, before `after`. -/
def markupAll (after : List Markup) : List Sketch → List Markup
  | [] => after
  | s :: ss => markupAll (markup s :: after) ss

end

/-- Whether a node is the element with the given number. -/
def hasNumber (n : Nat) : Sketch → Bool
  | element m .. => m == n
  | _ => false

/-- The children of a node, last first. -/
def children : Sketch → List Sketch
  | element _ _ _ _ cs => cs
  | _ => []

/-- Puts a node after the last of some siblings. Text joins text. -/
def push (s : Sketch) (siblings : List Sketch) : List Sketch :=
  match s, siblings with
  | text new, text old :: rest => text (new ++ old) :: rest
  | s, rest => s :: rest

mutual

/-- The element with the given number. -/
def find? (n : Nat) : Sketch → Option Sketch
  | element m space tag attrs children =>
    if m = n then some (element m space tag attrs children) else findAmong? n children
  | _ => none

/-- The element with the given number at or below some siblings. -/
def findAmong? (n : Nat) : List Sketch → Option Sketch
  | [] => none
  | s :: ss =>
    match find? n s with
    | some s => some s
    | none => findAmong? n ss

end

mutual

/-- Changes the children of the element with the given number; nothing if it is not there. -/
def change? (n : Nat) (f : List Sketch → List Sketch) : Sketch → Option Sketch
  | element m space tag attrs children =>
    if m = n then some (element m space tag attrs (f children))
    else (changeAmong? n f children).map (element m space tag attrs)
  | _ => none

/-- Changes the children of the element with the given number below some siblings. -/
def changeAmong? (n : Nat) (f : List Sketch → List Sketch) : List Sketch → Option (List Sketch)
  | [] => none
  | s :: ss =>
    match change? n f s with
    | some s => some (s :: ss)
    | none => (changeAmong? n f ss).map (s :: ·)

end

mutual

/-- Puts other nodes in the place of the element with the given number and its earlier siblings;
nothing if it is not below this node. -/
def replace? (n : Nat) (f : Sketch → List Sketch → List Sketch) : Sketch → Option Sketch
  | element m space tag attrs children =>
    (replaceAmong? n f children).map (element m space tag attrs)
  | _ => none

/-- Puts other nodes in the place of the element with the given number and its earlier siblings, at or
below some siblings. -/
def replaceAmong? (n : Nat) (f : Sketch → List Sketch → List Sketch) :
    List Sketch → Option (List Sketch)
  | [] => none
  | s :: ss =>
    if s.hasNumber n then some (f s ss)
    else
      match replace? n f s with
      | some s => some (s :: ss)
      | none => (replaceAmong? n f ss).map (s :: ·)

end

/-- Adds a node at the end of the element with the given number. -/
def addTo (root : Sketch) (n : Nat) (s : Sketch) : Sketch :=
  (root.change? n (push s)).getD root

/-- Adds a node right before the element with the given number. -/
def addBefore (root : Sketch) (n : Nat) (s : Sketch) : Sketch :=
  (root.replace? n fun x earlier => x :: push s earlier).getD root

/-- Takes out the element with the given number. -/
def remove (root : Sketch) (n : Nat) : Sketch :=
  (root.replace? n fun _ earlier => earlier).getD root

end Sketch

end SyntaxPlayground
