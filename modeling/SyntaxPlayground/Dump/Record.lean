import SyntaxPlayground.Text.Blank
import SyntaxPlayground.Tree.Basic

/-!
# Records of a dump

A compiler dumps a tree one node a line: two spaces of indentation for each level, the kind, and
the span if the node has one.

    Program @0..14
      Identifier(main) @5..9
      <Body>

`Record.ofLine?` decodes one such line.
-/

namespace SyntaxPlayground

/-- One decoded line of a dump. -/
structure Record where
  kind : Text
  level : Nat
  span : Option Span
deriving DecidableEq, Repr

namespace Span

/-- Reads what follows the `@` of a line: two plain decimal numbers around `..`, the first not
greater than the second, with white space allowed around the whole. -/
def ofSuffix? (t : Text) : Option Span :=
  match t.trim.cut? (utf8 "..") with
  | none => none
  | some (first, second) =>
    match first.readDigits?, second.readDigits? with
    | some start, some stop => if start ≤ stop then some ⟨start, stop⟩ else none
    | _, _ => none

end Span

namespace Record

/-- Decodes a line, whose carriage returns at the end do not count. A blank line, a line without
a kind and a line with a malformed span are no records. -/
def ofLine? (line : Text) : Option Record :=
  let line : Text := line.dropReturns
  let level := (line.takeWhile (· = 32)).length / 2
  let body : Text := line.dropWhile (· = 32)
  match body.cutByte? 64 with
  | none =>
    let kind := body.trim
    if kind.isEmpty then none else some ⟨kind, level, none⟩
  | some (head, suffix) =>
    let kind := head.trim
    if kind.isEmpty then none
    else (Span.ofSuffix? suffix).map fun span => ⟨kind, level, some span⟩

end Record

end SyntaxPlayground
