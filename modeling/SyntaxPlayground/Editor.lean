import SyntaxPlayground.Text.Quoted

/-!
# The editor

A buffer holds the source text and a selection. Offsets count characters, bytes or UTF-16 units,
whichever the compiler uses for its spans; an offset in the middle of a surrogate pair stands for
the place after it.
-/

namespace SyntaxPlayground

/-- What offsets count. -/
inductive OffsetUnit where
  | rune
  | byte
  | utf16
  /-- Any other name; it measures like `rune`. -/
  | other (name : Text)
deriving DecidableEq, Repr

/-- A name that is no unit. -/
structure UnitError where
  name : Text
deriving DecidableEq, Repr

namespace UnitError

/-- The text shown for the error. -/
def message (e : UnitError) : Text :=
  utf8 "unknown offset unit " ++ e.name.quoted ++ utf8 " (want rune, byte or utf16)"

end UnitError

namespace OffsetUnit

/-- The name of a unit. -/
def name : OffsetUnit → Text
  | rune => utf8 "rune"
  | byte => utf8 "byte"
  | utf16 => utf8 "utf16"
  | other n => n

/-- The unit that a buffer takes a name for; no name means `rune`. -/
def ofName (n : Text) : OffsetUnit :=
  if n = [] ∨ n = utf8 "rune" then rune
  else if n = utf8 "byte" then byte
  else if n = utf8 "utf16" then utf16
  else other n

/-- The unit with the given name, which must be one of the three. -/
def read (n : Text) : Except UnitError OffsetUnit :=
  if n = utf8 "rune" then .ok rune
  else if n = utf8 "byte" then .ok byte
  else if n = utf8 "utf16" then .ok utf16
  else .error ⟨n⟩

/-- What one character measures. -/
def ofPiece (u : OffsetUnit) (p : Piece) : Nat :=
  match u with
  | byte => p.bytes.length
  | utf16 => p.units16
  | _ => 1

/-- What a text measures. -/
def measure (u : OffsetUnit) (t : Text) : Nat :=
  match u with
  | byte => t.length
  | u => t.pieces.foldr (fun p n => u.ofPiece p + n) 0

/-- Where a character measures one, or two if it is wide, some characters measure their number and the
number of the wide ones. -/
theorem foldr_ofPiece {u : OffsetUnit} {wide : Piece → Bool}
    (h : ∀ p, u.ofPiece p = 1 + (wide p).toNat) (ps : List Piece) :
    ps.foldr (fun p n => u.ofPiece p + n) 0 = ps.length + ps.countP wide := by
  induction ps with
  | nil => rfl
  | cons p ps ih =>
    rw [List.foldr_cons, ih, h, List.length_cons, List.countP_cons]
    cases wide p with
    | false =>
      simp only [Bool.toNat_false, Bool.false_eq_true, if_false]
      omega
    | true =>
      simp only [Bool.toNat_true, if_true]
      omega

/-- In bytes, a text measures its length. -/
theorem measure_byte (t : Text) : byte.measure t = t.length := by
  rfl

/-- In characters, and in a unit of any other name, a text measures the number of its characters. -/
theorem measure_eq_runeCount {u : OffsetUnit} (hbyte : u ≠ byte) (hutf16 : u ≠ utf16) (t : Text) :
    u.measure t = t.runeCount := by
  have hnone : t.pieces.countP (fun _ => false) = 0 := by
    rw [List.countP_eq_zero]
    exact fun _ _ => Bool.false_ne_true
  have hcount : (∀ p, u.ofPiece p = 1 + false.toNat) →
      t.pieces.foldr (fun p n => u.ofPiece p + n) 0 = t.runeCount := by
    intro hones
    rw [foldr_ofPiece hones, hnone]
    rfl
  cases u with
  | byte => exact absurd rfl hbyte
  | utf16 => exact absurd rfl hutf16
  | rune => exact hcount fun _ => rfl
  | other name => exact hcount fun _ => rfl

/-- In UTF-16 units, a text measures one for each character and one more for each that is beyond the
basic plane. -/
theorem measure_utf16 (t : Text) :
    utf16.measure t = t.runeCount + t.pieces.countP fun p => decide (0x10000 ≤ p.scalar) := by
  have hunits : ∀ p, utf16.ofPiece p = 1 + (decide (0x10000 ≤ p.scalar)).toNat := by
    intro p
    rw [ofPiece, Piece.units16]
    by_cases hbasic : p.scalar < 0x10000
    · have hnot : ¬ 0x10000 ≤ p.scalar := Nat.not_le_of_lt hbasic
      rw [if_pos hbasic, decide_eq_false hnot]
      rfl
    · have hbeyond : 0x10000 ≤ p.scalar := Nat.le_of_not_lt hbasic
      rw [if_neg hbasic, decide_eq_true hbeyond]
      rfl
  exact foldr_ofPiece hunits t.pieces

/-- The bytes of the characters that begin before `offset`, the first of which is at `position`. -/
def bytesBefore (u : OffsetUnit) (offset : Nat) (position : Nat) : List Piece → Nat
  | [] => 0
  | p :: ps =>
    if offset ≤ position then 0
    else p.bytes.length + bytesBefore u offset (position + u.ofPiece p) ps

/-- The byte that an offset stands for; the end if the offset is beyond it. -/
def byteOffset (u : OffsetUnit) (t : Text) (offset : Nat) : Nat :=
  match u with
  | byte => min offset t.length
  | u => u.bytesBefore offset 0 t.pieces

end OffsetUnit

/-- A selected range: where it begins and where the caret is. -/
structure Selection where
  anchor : Nat := 0
  head : Nat := 0
deriving DecidableEq, Repr

namespace Selection

/-- Whether the selection is a bare caret. -/
def isEmpty (s : Selection) : Bool :=
  s.anchor == s.head

end Selection

/-- A range that does not lie in the text. -/
structure RangeError where
  start : Int
  stop : Int
  length : Nat
deriving DecidableEq, Repr

namespace RangeError

/-- The text shown for the error. -/
def message (e : RangeError) : Text :=
  utf8 "selection out of range: [" ++ Text.ofInt e.start ++ utf8 ", " ++ Text.ofInt e.stop ++
    utf8 ") in text of length " ++ Text.ofNat e.length

end RangeError

/-- The source text and its selection. -/
structure Buffer where
  unit : OffsetUnit
  text : Text := []
  selection : Selection := {}
deriving DecidableEq, Repr

namespace Buffer

/-- Replaces the text and puts the caret at its start. -/
def setText (b : Buffer) (t : Text) : Buffer :=
  { b with text := t, selection := {} }

/-- The length of the text in the buffer's unit. -/
def length (b : Buffer) : Nat :=
  b.unit.measure b.text

/-- Selects from `start` up to `stop`, where the caret goes. -/
def select (b : Buffer) (start stop : Int) : Except RangeError Buffer :=
  if start < 0 ∨ stop < start ∨ (b.length : Int) < stop then .error ⟨start, stop, b.length⟩
  else .ok { b with selection := ⟨start.toNat, stop.toNat⟩ }

/-- The text that the selection covers. -/
def selected (b : Buffer) : Text :=
  let low := min b.selection.anchor b.selection.head
  let high := max b.selection.anchor b.selection.head
  (b.text.take (b.unit.byteOffset b.text high)).drop (b.unit.byteOffset b.text low)

end Buffer

end SyntaxPlayground
