import SyntaxPlayground.Markup.OfTree
import SyntaxPlayground.Text.Blank

/-!
# Class lists

The class attribute holds names separated by white space. Adding a name changes nothing if it is
there, and otherwise writes it after a space; removing one rewrites the others with single spaces.
-/

namespace SyntaxPlayground

namespace Attributes

/-- The text of the class attribute; empty if there is none. -/
def classText (as : Attributes) : Text :=
  (as.get? Vocabulary.classAttr).getD []

/-- The names in the class attribute. -/
def classNames (as : Attributes) : List Text :=
  as.classText.words

/-- Whether the element has the class. -/
def hasClass (as : Attributes) (c : Text) : Bool :=
  as.classNames.contains c

/-- Adds a class. -/
def addClass (as : Attributes) (c : Text) : Attributes :=
  if as.hasClass c then as
  else if as.classText.isEmpty then as.set Vocabulary.classAttr c
  else as.set Vocabulary.classAttr (as.classText ++ utf8 " " ++ c)

/-- Removes a class, every time it is named. -/
def removeClass (as : Attributes) (c : Text) : Attributes :=
  match as.get? Vocabulary.classAttr with
  | none => as
  | some _ =>
    as.set Vocabulary.classAttr (Text.join (utf8 " ") (as.classNames.filter (· ≠ c)))

end Attributes

end SyntaxPlayground
