import SyntaxPlayground.Text.Grapheme

/-!
# Width of text on a terminal

Text stands in cells. A wide character takes two cells, a control or an accent none, and most others
one. Codes that steer the terminal, such as those for colors, take no cells, so a text is read the
way a terminal reads it.
-/

namespace SyntaxPlayground

/-! ## Code points -/

/-- The characters that take two cells, as inclusive ranges. -/
def wideRanges : List (Nat × Nat) :=
  [
   (0x1100, 0x115F), (0x231A, 0x231B), (0x2329, 0x232A), (0x23E9, 0x23EC), (0x23F0, 0x23F0),
   (0x23F3, 0x23F3), (0x25FD, 0x25FE), (0x2614, 0x2615), (0x2648, 0x2653), (0x267F, 0x267F),
   (0x2693, 0x2693), (0x26A1, 0x26A1), (0x26AA, 0x26AB), (0x26BD, 0x26BE), (0x26C4, 0x26C5),
   (0x26CE, 0x26CE), (0x26D4, 0x26D4), (0x26EA, 0x26EA), (0x26F2, 0x26F3), (0x26F5, 0x26F5),
   (0x26FA, 0x26FA), (0x26FD, 0x26FD), (0x2705, 0x2705), (0x270A, 0x270B), (0x2728, 0x2728),
   (0x274C, 0x274C), (0x274E, 0x274E), (0x2753, 0x2755), (0x2757, 0x2757), (0x2795, 0x2797),
   (0x27B0, 0x27B0), (0x27BF, 0x27BF), (0x2B1B, 0x2B1C), (0x2B50, 0x2B50), (0x2B55, 0x2B55),
   (0x2E80, 0x2E99), (0x2E9B, 0x2EF3), (0x2F00, 0x2FD5), (0x2FF0, 0x2FFB), (0x3000, 0x303E),
   (0x3041, 0x3096), (0x3099, 0x30FF), (0x3105, 0x312F), (0x3131, 0x318E), (0x3190, 0x31E3),
   (0x31F0, 0x321E), (0x3220, 0x3247), (0x3250, 0x4DBF), (0x4E00, 0xA48C), (0xA490, 0xA4C6),
   (0xA960, 0xA97C), (0xAC00, 0xD7A3), (0xF900, 0xFAFF), (0xFE10, 0xFE19), (0xFE30, 0xFE52),
   (0xFE54, 0xFE66), (0xFE68, 0xFE6B), (0xFF01, 0xFF60), (0xFFE0, 0xFFE6), (0x16FE0, 0x16FE4),
   (0x16FF0, 0x16FF1), (0x17000, 0x187F7), (0x18800, 0x18CD5), (0x18D00, 0x18D08),
   (0x1AFF0, 0x1AFF3), (0x1AFF5, 0x1AFFB), (0x1AFFD, 0x1AFFE), (0x1B000, 0x1B122),
   (0x1B132, 0x1B132), (0x1B150, 0x1B152), (0x1B155, 0x1B155), (0x1B164, 0x1B167),
   (0x1B170, 0x1B2FB), (0x1F004, 0x1F004), (0x1F0CF, 0x1F0CF), (0x1F18E, 0x1F18E),
   (0x1F191, 0x1F19A), (0x1F200, 0x1F202), (0x1F210, 0x1F23B), (0x1F240, 0x1F248),
   (0x1F250, 0x1F251), (0x1F260, 0x1F265), (0x1F300, 0x1F320), (0x1F32D, 0x1F335),
   (0x1F337, 0x1F37C), (0x1F37E, 0x1F393), (0x1F3A0, 0x1F3CA), (0x1F3CF, 0x1F3D3),
   (0x1F3E0, 0x1F3F0), (0x1F3F4, 0x1F3F4), (0x1F3F8, 0x1F43E), (0x1F440, 0x1F440),
   (0x1F442, 0x1F4FC), (0x1F4FF, 0x1F53D), (0x1F54B, 0x1F54E), (0x1F550, 0x1F567),
   (0x1F57A, 0x1F57A), (0x1F595, 0x1F596), (0x1F5A4, 0x1F5A4), (0x1F5FB, 0x1F64F),
   (0x1F680, 0x1F6C5), (0x1F6CC, 0x1F6CC), (0x1F6D0, 0x1F6D2), (0x1F6D5, 0x1F6D7),
   (0x1F6DC, 0x1F6DF), (0x1F6EB, 0x1F6EC), (0x1F6F4, 0x1F6FC), (0x1F7E0, 0x1F7EB),
   (0x1F7F0, 0x1F7F0), (0x1F90C, 0x1F93A), (0x1F93C, 0x1F945), (0x1F947, 0x1F9FF),
   (0x1FA70, 0x1FA7C), (0x1FA80, 0x1FA88), (0x1FA90, 0x1FABD), (0x1FABF, 0x1FAC5),
   (0x1FACE, 0x1FADB), (0x1FAE0, 0x1FAE8), (0x1FAF0, 0x1FAF8), (0x20000, 0x2FFFD),
   (0x30000, 0x3FFFD)]

/-- The pictographs that are shown in color, as inclusive ranges; they take two cells. -/
def colorfulRanges : List (Nat × Nat) :=
  [
   (0x231A, 0x231B), (0x23E9, 0x23EC), (0x23F0, 0x23F0), (0x23F3, 0x23F3), (0x25FD, 0x25FE),
   (0x2614, 0x2615), (0x2648, 0x2653), (0x267F, 0x267F), (0x2693, 0x2693), (0x26A1, 0x26A1),
   (0x26AA, 0x26AB), (0x26BD, 0x26BE), (0x26C4, 0x26C5), (0x26CE, 0x26CE), (0x26D4, 0x26D4),
   (0x26EA, 0x26EA), (0x26F2, 0x26F3), (0x26F5, 0x26F5), (0x26FA, 0x26FA), (0x26FD, 0x26FD),
   (0x2705, 0x2705), (0x270A, 0x270B), (0x2728, 0x2728), (0x274C, 0x274C), (0x274E, 0x274E),
   (0x2753, 0x2755), (0x2757, 0x2757), (0x2795, 0x2797), (0x27B0, 0x27B0), (0x27BF, 0x27BF),
   (0x2B1B, 0x2B1C), (0x2B50, 0x2B50), (0x2B55, 0x2B55), (0x1F004, 0x1F004), (0x1F0CF, 0x1F0CF),
   (0x1F18E, 0x1F18E), (0x1F191, 0x1F19A), (0x1F1E6, 0x1F1FF), (0x1F201, 0x1F201),
   (0x1F21A, 0x1F21A), (0x1F22F, 0x1F22F), (0x1F232, 0x1F236), (0x1F238, 0x1F23A),
   (0x1F250, 0x1F251), (0x1F300, 0x1F320), (0x1F32D, 0x1F335), (0x1F337, 0x1F37C),
   (0x1F37E, 0x1F393), (0x1F3A0, 0x1F3CA), (0x1F3CF, 0x1F3D3), (0x1F3E0, 0x1F3F0),
   (0x1F3F4, 0x1F3F4), (0x1F3F8, 0x1F43E), (0x1F440, 0x1F440), (0x1F442, 0x1F4FC),
   (0x1F4FF, 0x1F53D), (0x1F54B, 0x1F54E), (0x1F550, 0x1F567), (0x1F57A, 0x1F57A),
   (0x1F595, 0x1F596), (0x1F5A4, 0x1F5A4), (0x1F5FB, 0x1F64F), (0x1F680, 0x1F6C5),
   (0x1F6CC, 0x1F6CC), (0x1F6D0, 0x1F6D2), (0x1F6D5, 0x1F6D7), (0x1F6DC, 0x1F6DF),
   (0x1F6EB, 0x1F6EC), (0x1F6F4, 0x1F6FC), (0x1F7E0, 0x1F7EB), (0x1F7F0, 0x1F7F0),
   (0x1F90C, 0x1F93A), (0x1F93C, 0x1F945), (0x1F947, 0x1F9FF), (0x1FA70, 0x1FA7C),
   (0x1FA80, 0x1FA88), (0x1FA90, 0x1FABD), (0x1FABF, 0x1FAC5), (0x1FACE, 0x1FADB),
   (0x1FAE0, 0x1FAE8), (0x1FAF0, 0x1FAF8)]

/-- The cells a code point takes by itself. -/
def scalarWidth (c : Nat) : Nat :=
  match GraphemeClass.ofScalar c with
  | .control | .carriageReturn | .lineFeed | .extending | .zeroWidthJoiner => 0
  | .regionalIndicator => 2
  | .pictograph => if inRanges colorfulRanges c then 2 else 1
  | _ =>
    if c = 0x2E3A then 3
    else if c = 0x2E3B then 4
    else if inRanges wideRanges c then 2
    else 1

/-- A character as a reader sees it, read so far. -/
structure Grapheme where
  /-- The class of its first code point. -/
  first : GraphemeClass
  state : GraphemeState
  cells : Nat
deriving DecidableEq, Repr

namespace Grapheme

/-- The character that begins with a code point. -/
def start (c : Nat) : Grapheme :=
  let k := GraphemeClass.ofScalar c
  ⟨k, .start k, scalarWidth c⟩

/-- The cells when a further code point joins. Flags and Hangul have their width from the first one;
a selector decides whether a pictograph is shown as text or in color; otherwise widths add up. -/
def widened (g : Grapheme) (c : Nat) : Nat :=
  match g.first with
  | .pictograph => if c = 0xFE0E then 1 else if c = 0xFE0F then 2 else g.cells
  | .regionalIndicator | .leading => g.cells
  | _ => g.cells + scalarWidth c

/-- The character with a further code point, if that joins it. -/
def join? (g : Grapheme) (c : Nat) : Option Grapheme :=
  (g.state.join? (GraphemeClass.ofScalar c)).map fun state => { g with state, cells := g.widened c }

end Grapheme

/-! ## Terminals -/

/-- What a terminal is in the middle of. -/
inductive TerminalState where
  | ground
  | escape
  | escapeIntermediate
  /-- In a control sequence, among its parameters. -/
  | control
  | controlIntermediate
  | deviceEntry
  | deviceParameter
  | deviceIntermediate
  | deviceString
  /-- In a command to the system around the terminal. -/
  | command
  /-- In a string that is for nobody here. -/
  | foreign
deriving DecidableEq, Repr

namespace TerminalState

/-- Whether bytes beyond the basic alphabet belong to the string that is being read. -/
def takesAll : TerminalState → Bool
  | deviceString | command => true
  | _ => false

/-- A byte that begins a character of several bytes. -/
def isLead (b : UInt8) : Bool :=
  0xC2 ≤ b && b ≤ 0xF4

/-- Where a byte beyond the basic alphabet leads, from any state that does not take it. -/
def afterHigh (b : UInt8) : TerminalState :=
  if b = 0x90 then deviceEntry
  else if b = 0x98 ∨ b = 0x9E ∨ b = 0x9F then foreign
  else if b = 0x9B then control
  else if b = 0x9D then command
  else ground

/-- Where a byte after the escape character leads. -/
def afterEscape (b : UInt8) : TerminalState :=
  if b < 0x20 ∨ b = 0x7F then escape
  else if b < 0x30 then escapeIntermediate
  else if b = 0x50 then deviceEntry
  else if b = 0x58 ∨ b = 0x5E ∨ b = 0x5F then foreign
  else if b = 0x5B then control
  else if b = 0x5D then command
  else ground

/-- Where a byte of the basic alphabet leads that is not the escape character and does not cancel. -/
def afterBasic (s : TerminalState) (b : UInt8) : TerminalState :=
  let isControl := b < 0x20 || b == 0x7F
  match s with
  | ground => ground
  | escape => afterEscape b
  | escapeIntermediate => if isControl || b < 0x30 then s else ground
  | control =>
    if isControl then s
    else if b < 0x30 then controlIntermediate
    else if b < 0x40 then control
    else ground
  | controlIntermediate => if isControl || b < 0x30 then s else ground
  | deviceEntry =>
    if 8 ≤ b ∧ b ≤ 13 then deviceString
    else if isControl then s
    else if b < 0x30 then deviceIntermediate
    else if b < 0x40 then deviceParameter
    else deviceString
  | deviceParameter =>
    if isControl then s
    else if b < 0x30 then deviceIntermediate
    else if b < 0x40 then s
    else deviceString
  | deviceIntermediate => if isControl || b < 0x30 then s else deviceString
  | deviceString => s
  | command => if b = 7 then ground else s
  | foreign => s

/-- The state after a byte that begins no character of several bytes, or is taken by a string. -/
def next (s : TerminalState) (b : UInt8) : TerminalState :=
  if b = 0x1B then (if s = deviceEntry then deviceString else escape)
  else if b = 0x18 ∨ b = 0x1A ∨ b = 0x9C then ground
  else if b < 0x80 then s.afterBasic b
  else if s.takesAll then s
  else afterHigh b

end TerminalState

/-- A line being written to a terminal: the cells that are complete, what the terminal is in the
middle of, and the character that the next code point may still join. -/
structure TerminalLine where
  cells : Nat := 0
  state : TerminalState := .ground
  pending : Option Grapheme := none
deriving DecidableEq, Repr

namespace TerminalLine

/-- The cells with those of the pending character. -/
def width (l : TerminalLine) : Nat :=
  l.cells + (l.pending.map Grapheme.cells).getD 0

/-- One byte that begins no character of several bytes. -/
def pushByte (l : TerminalLine) (b : UInt8) : TerminalLine :=
  let printed := l.state = .ground ∧ 0x20 ≤ b ∧ b < 0x7F
  { l with cells := l.cells + (if printed then 1 else 0), state := l.state.next b }

/-- One code point that does not join the character before it. -/
def begin (l : TerminalLine) (p : Piece) : TerminalLine :=
  let l := { l with cells := l.width, pending := none }
  if p.bytes.head?.any TerminalState.isLead && !l.state.takesAll then
    { l with state := .ground, pending := some (.start p.scalar) }
  else p.bytes.foldl pushByte l

/-- One code point. -/
def push (l : TerminalLine) (p : Piece) : TerminalLine :=
  match l.pending.bind (·.join? p.scalar) with
  | some g => { l with pending := some g }
  | none => l.begin p

end TerminalLine

namespace Text

/-- The cells a text takes on one line. -/
def width (t : Text) : Nat :=
  (t.pieces.foldl TerminalLine.push {}).width

end Text

end SyntaxPlayground
