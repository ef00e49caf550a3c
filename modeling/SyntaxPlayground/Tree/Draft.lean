import SyntaxPlayground.Tree.Basic

/-!
# Drafts of trees

A tree put together by hand may have holes where a child is missing. A walk passes over them, so
it sees the tree that `prune` gives; what needs every child asks `complete?` instead.
-/

namespace SyntaxPlayground

/-- A tree in which a child, or all of it, may be missing. -/
inductive Draft where
  | hole
  | node (kind : Text) (level : Nat) (span : Option Span) (children : List Draft)
deriving Inhabited, Repr

namespace Draft

mutual

/-- The tree without the holes; nothing if the draft is a hole itself. -/
def prune : Draft → Option Tree
  | hole => none
  | node k l s cs => some (.node k l s (pruneAll cs))

/-- The siblings that are no holes. -/
def pruneAll : List Draft → List Tree
  | [] => []
  | d :: ds =>
    match prune d with
    | none => pruneAll ds
    | some t => t :: pruneAll ds

end

mutual

/-- The tree, if nothing is missing. -/
def complete? : Draft → Option Tree
  | hole => none
  | node k l s cs => (completeAll? cs).map (.node k l s)

/-- The siblings, if nothing is missing among them. -/
def completeAll? : List Draft → Option (List Tree)
  | [] => some []
  | d :: ds =>
    match complete? d, completeAll? ds with
    | some t, some ts => some (t :: ts)
    | _, _ => none

end

end Draft

end SyntaxPlayground
