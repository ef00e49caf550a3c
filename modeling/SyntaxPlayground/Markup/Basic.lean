import SyntaxPlayground.Text.Basic

/-!
# Markup

A fragment of a page: elements with attributes and children, text and comments. Attributes keep
the order they were written in; of several with one name the first counts. Drawings and formulas
have elements of their own, which may share a name with an element of the page.
-/

namespace SyntaxPlayground

/-- One attribute of an element. -/
structure Attribute where
  name : Text
  value : Text
deriving DecidableEq, Repr

/-- The attributes of an element, in order. -/
abbrev Attributes := List Attribute

namespace Attributes

/-- The value of the attribute called `name`. -/
def get? (as : Attributes) (name : Text) : Option Text :=
  (as.find? (·.name = name)).map (·.value)

/-- Sets an attribute: in its place if the element has it, else at the end. -/
def set (name value : Text) : Attributes → Attributes
  | [] => [⟨name, value⟩]
  | a :: as => if a.name = name then ⟨name, value⟩ :: as else a :: set name value as

end Attributes

/-- What an element belongs to. -/
inductive Namespace where
  /-- The page itself. -/
  | html
  /-- A drawing. -/
  | svg
  /-- A formula. -/
  | math
deriving DecidableEq, Repr

/-- A node of a page. -/
inductive Markup where
  | element (space : Namespace) (tag : Text) (attrs : Attributes) (children : List Markup)
  | text (content : Text)
  | comment (content : Text)
deriving Repr

namespace Markup

/-- The name of an element; empty for text and comments. -/
def tag : Markup → Text
  | element _ t _ _ => t
  | _ => []

/-- The attributes of an element; none for text and comments. -/
def attrs : Markup → Attributes
  | element _ _ as _ => as
  | _ => []

/-- The children of an element; none for text and comments. -/
def children : Markup → List Markup
  | element _ _ _ cs => cs
  | _ => []

mutual

/-- The text below a node, in document order. -/
def textContent : Markup → Text
  | element _ _ _ cs => textContentAll cs
  | text s => s
  | comment _ => []

/-- The text below some siblings. -/
def textContentAll : List Markup → Text
  | [] => []
  | m :: ms => textContent m ++ textContentAll ms

end

mutual

/-- The elements of a node in document order, itself first if it is one. -/
def elements : Markup → List Markup
  | element ns t as cs => element ns t as cs :: elementsAll cs
  | _ => []

/-- The elements of some siblings in document order. -/
def elementsAll : List Markup → List Markup
  | [] => []
  | m :: ms => elements m ++ elementsAll ms

end

end Markup

end SyntaxPlayground
