import SyntaxPlayground.Markup.Builder

/-!
# Misnested formatting

In `<b>x<div>y</b>z</div>` the end tag of the formatting comes inside a block that began within it.
The block moves out of the formatting element, what it holds so far is wrapped in a copy of that
element, and formatting between the two is copied around the block.
-/

namespace SyntaxPlayground

/-- A block on its way out of a formatting element. -/
structure Relocation where
  /-- The block, with the copies that were put around it. -/
  moved : Sketch
  /-- Whether a copy was put around it. -/
  wrapped : Bool
  /-- The number of the next element. -/
  next : Nat
  stack : List OpenElement
  /-- The list of formatting, earliest first. -/
  entries : List FormattingEntry
  /-- The place in `entries` for the copy of the formatting element. -/
  place : Nat

namespace Relocation

/-- Where an element stands in the list of formatting. -/
def indexOf? (n : Nat) (entries : List FormattingEntry) : Option Nat :=
  entries.findIdx? (·.hasNumber n)

/-- Passes one element between the block and the formatting element, the `count`-th from the block.
Formatting is copied around the block, but only up to three elements away; what is not formatting is
no longer open. -/
def pass (r : Relocation) (count : Nat) (e : OpenElement) : Relocation :=
  match indexOf? e.number r.entries with
  | none => { r with stack := r.stack.filter fun x => !(x.number = e.number) }
  | some i =>
    if 3 < count then
      { r with
        entries := r.entries.eraseIdx i
        place := if i ≤ r.place then r.place - 1 else r.place }
    else
      let copy := { e with number := r.next }
      { r with
        moved := .element copy.number copy.space copy.tag copy.attrs [r.moved]
        wrapped := true
        next := r.next + 1
        stack := r.stack.map fun x => if x.number = e.number then copy else x
        entries := r.entries.set i (.element copy)
        place := if r.wrapped then r.place else i + 1 }

/-- Passes all elements between the block and the formatting element, from the block outwards. -/
def passAll (r : Relocation) : Nat → List OpenElement → Relocation
  | _, [] => r
  | count, e :: es => passAll (r.pass count e) (count + 1) es

end Relocation

namespace Builder

/-- Moves a block out of a formatting element that is open around it. -/
def moveOut (b : Builder) (outer block : OpenElement) : Builder :=
  match b.root.find? block.number with
  | none => b
  | some moved =>
    let inside := b.stack.takeWhile fun e => !(e.number = outer.number)
    let between := (inside.dropWhile fun e => !(e.number = block.number)).drop 1
    let around := ((b.stack.dropWhile fun e => !(e.number = outer.number)).drop 1).headD outermost
    let entries := b.formatting.reverse
    let r : Relocation :=
      { moved := moved, wrapped := false, next := b.next, stack := b.stack, entries := entries
        place := (Relocation.indexOf? outer.number entries).getD 0 }
    let r := r.passAll 1 between
    let b := { b with root := b.root.remove block.number, stack := r.stack }
    let b :=
      if around.role.isTablePlace then b.foster r.moved
      else { b with root := b.root.addTo around.number r.moved }
    let copy := { outer with number := r.next }
    let wrap (children : List Sketch) : List Sketch :=
      [.element copy.number copy.space copy.tag copy.attrs children]
    let old := (Relocation.indexOf? outer.number r.entries).getD r.place
    let place := if old < r.place then r.place - 1 else r.place
    { b with
      root := (b.root.change? block.number wrap).getD b.root
      next := r.next + 1
      formatting := ((r.entries.eraseIdx old).insertIdx place (.element copy)).reverse
      stack := (b.stack.filter fun e => !(e.number = outer.number)).flatMap fun e =>
        if e.number = block.number then [copy, e] else [e] }

/-- Ends the formatting called `tag`, moving at most `rounds` blocks out of it. -/
def endFormattingRounds (tag : Text) : Nat → Builder → Builder
  | 0, b => b
  | rounds + 1, b =>
    match b.formattingTag? tag with
    | none => b.closeStray tag
    | some outer =>
      if !b.isOpen outer.number then b.dropFormatting outer.number
      else if !b.inScope .ordinary (·.tag = tag) then b
      else
        let inside := b.stack.takeWhile fun e => !(e.number = outer.number)
        match inside.reverse.find? (·.special) with
        | none =>
          dropFormatting outer.number { b with stack := b.stack.drop (inside.length + 1) }
        | some block => endFormattingRounds tag rounds (b.moveOut outer block)

/-- Ends the formatting called `tag`. -/
def endFormatting (tag : Text) (b : Builder) : Builder :=
  if b.current.tag = tag && !b.formatting.any (·.hasNumber b.current.number) then b.pop
  else endFormattingRounds tag 8 b

end Builder

end SyntaxPlayground
