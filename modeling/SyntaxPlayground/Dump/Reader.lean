import SyntaxPlayground.Dump.Record

/-!
# Reading a dump

The first line must be the record of the root, unindented; otherwise the text is an error report
and no dump. Of the later lines those that are indented records count, and each becomes a child of
the nearest earlier record of smaller level. The reader keeps the path from the root to the latest
node; `Path.climb` leaves the nodes on it that the next record closes.
-/

namespace SyntaxPlayground

/-- The kind of the first record of every dump. -/
def rootKind : Text :=
  utf8 "Program"

/-- A node on the path to the latest record, with its finished children, the latest first. -/
structure OpenNode where
  record : Record
  done : List Tree

namespace OpenNode

/-- The node with all its children. -/
def close (n : OpenNode) : Tree :=
  .node n.record.kind n.record.level n.record.span n.done.reverse

/-- The node with one more finished child. -/
def adopt (n : OpenNode) (t : Tree) : OpenNode :=
  { n with done := t :: n.done }

end OpenNode

/-- The path from the latest record up to the root: the latest node and those above it, the
nearest first. -/
structure Path where
  latest : OpenNode
  above : List OpenNode

namespace Path

/-- Closes the latest nodes until one has a level smaller than `level`. The root stays. -/
def climb (level : Nat) (latest : OpenNode) : List OpenNode → Path
  | [] => ⟨latest, []⟩
  | parent :: above =>
    if level ≤ latest.record.level then climb level (parent.adopt latest.close) above
    else ⟨latest, parent :: above⟩

/-- The path after one more record. -/
def add (p : Path) (r : Record) : Path :=
  let q := climb r.level p.latest p.above
  ⟨⟨r, []⟩, q.latest :: q.above⟩

/-- Closes every node of the path. -/
def closeAll (latest : OpenNode) : List OpenNode → Tree
  | [] => latest.close
  | parent :: above => closeAll (parent.adopt latest.close) above

end Path

namespace Tree

/-- The tree of a root record and the records after it. -/
def ofRecords (root : Record) (rest : List Record) : Tree :=
  let p := rest.foldl Path.add ⟨⟨root, []⟩, []⟩
  Path.closeAll p.latest p.above

end Tree

namespace Dump

/-- The first line of a text and the lines after it. -/
def firstLine (t : Text) : Text × Text :=
  (t.cutByte? 10).getD (t, [])

/-- The root record, if the first line is one. -/
def root? (t : Text) : Option Record :=
  let line := (firstLine t).1.dropReturns
  if rootKind.isPrefixOf line then
    match Record.ofLine? line with
    | some r => if r.kind = rootKind then some r else none
    | none => none
  else none

/-- The text shown for a text that is no dump. -/
def noProgramMessage : Text := utf8 "dump does not start with a Program record"

/-- The records below the root: the later lines that are indented records. -/
def records (t : Text) : List Record :=
  (firstLine t).2.lines.filterMap fun line =>
    match Record.ofLine? line.dropReturns with
    | some r => if r.level = 0 then none else some r
    | none => none

end Dump

namespace Tree

/-- The tree that a dump encodes; nothing if the text is no dump. -/
def ofDump? (t : Text) : Option Tree :=
  (Dump.root? t).map fun root => ofRecords root (Dump.records t)

end Tree

end SyntaxPlayground
