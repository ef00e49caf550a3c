import SyntaxPlayground.Text.Basic

/-!
# Notices

What the playground writes to its log. A notice has a severity and a fixed message.
-/

namespace SyntaxPlayground

/-- A thing worth logging. -/
inductive Notice where
  /-- A clicked node carries no readable span. -/
  | badSpan
  /-- The editor refused to select a node's span. -/
  | selectionRejected
  /-- The compiler answered with a report instead of a tree. -/
  | noTree
  /-- A tree was mounted and bound. -/
  | treeMounted
  /-- A call of the compiler failed and will be repeated. -/
  | retrying
deriving DecidableEq, Repr

namespace Notice

/-- How serious the notice is. -/
def severity : Notice → Text
  | badSpan | selectionRejected | retrying => utf8 "WARN"
  | noTree => utf8 "INFO"
  | treeMounted => utf8 "DEBUG"

/-- What the notice says. -/
def message : Notice → Text
  | badSpan => utf8 "ignoring click on node with bad span"
  | selectionRejected => utf8 "selection rejected by editor"
  | noTree => utf8 "compiler returned no tree"
  | treeMounted => utf8 "tree mounted"
  | retrying => utf8 "compiler call failed, retrying"

/-- A line of the log. -/
def line (n : Notice) : Text :=
  n.severity ++ utf8 " " ++ n.message

end Notice

end SyntaxPlayground
