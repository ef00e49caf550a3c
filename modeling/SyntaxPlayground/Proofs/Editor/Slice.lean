import SyntaxPlayground.Editor

/-!
# Slices of the source

The selected text is found by turning two offsets into bytes. `selected_eq_slice` says what this comes
to without counting bytes: it is made of the characters that begin at the offsets of the selection.
-/

namespace SyntaxPlayground

namespace OffsetUnit

/-- The characters that begin at offsets from `low` up to `high`, when the first of all begins at
`position`. -/
def between (u : OffsetUnit) (low high : Nat) : Nat → List Piece → List Piece
  | _, [] => []
  | position, p :: ps =>
    if low ≤ position ∧ position < high then p :: between u low high (position + u.ofPiece p) ps
    else between u low high (position + u.ofPiece p) ps

/-- The part of a text from offset `low` up to offset `high`. -/
def slice (u : OffsetUnit) (t : Text) (low high : Nat) : Text :=
  match u with
  | byte => (t.drop low).take (high - low)
  | u => Text.ofPieces (u.between low high 0 t.pieces)

variable {u : OffsetUnit} {low high position : Nat}

theorem bytesBefore_of_le (h : high ≤ position) (ps : List Piece) :
    u.bytesBefore high position ps = 0 := by
  cases ps with
  | nil => rfl
  | cons p ps => rw [bytesBefore, if_pos h]

theorem between_of_le (h : high ≤ position) (ps : List Piece) : u.between low high position ps = [] := by
  induction ps generalizing position with
  | nil => rfl
  | cons p ps ih =>
    have hout : ¬ (low ≤ position ∧ position < high) := fun hin => absurd hin.2 (Nat.not_lt.mpr h)
    rw [between, if_neg hout, ih (Nat.le_trans h (Nat.le_add_right _ _))]

/-- Counting bytes up to both offsets finds the characters between them. -/
theorem take_drop_bytesBefore (u : OffsetUnit) (h : low ≤ high) (position : Nat) (ps : List Piece) :
    ((Text.ofPieces ps).take (u.bytesBefore high position ps)).drop
        (u.bytesBefore low position ps) =
      Text.ofPieces (u.between low high position ps) := by
  induction ps generalizing position with
  | nil => rfl
  | cons p ps ih =>
    have hbytes : Text.ofPieces (p :: ps) = p.bytes ++ Text.ofPieces ps := List.flatMap_cons
    by_cases hhigh : high ≤ position
    · rw [bytesBefore_of_le hhigh, bytesBefore_of_le (Nat.le_trans h hhigh), between_of_le hhigh]
      rfl
    · -- the character begins before the end of the slice, so its bytes are taken
      have htake : (Text.ofPieces (p :: ps)).take (u.bytesBefore high position (p :: ps)) =
          p.bytes ++ (Text.ofPieces ps).take
            (u.bytesBefore high (position + u.ofPiece p) ps) := by
        rw [bytesBefore, if_neg hhigh, hbytes, List.take_length_add_append]
      rw [htake]
      by_cases hlow : low ≤ position
      · have hnext : low ≤ position + u.ofPiece p := Nat.le_trans hlow (Nat.le_add_right _ _)
        have hrest := ih (position + u.ofPiece p)
        rw [bytesBefore_of_le hnext, List.drop_zero] at hrest
        rw [bytesBefore_of_le hlow, List.drop_zero, hrest, between,
          if_pos ⟨hlow, Nat.lt_of_not_le hhigh⟩]
        exact List.flatMap_cons.symm
      · have hout : ¬ (low ≤ position ∧ position < high) := fun hin => hlow hin.1
        rw [bytesBefore, if_neg hlow, List.drop_length_add_append, ih, between, if_neg hout]

end OffsetUnit

namespace Buffer

theorem take_min_drop_min (t : Text) (low high : Nat) :
    (t.take (min high t.length)).drop (min low t.length) = (t.drop low).take (high - low) := by
  have htake : t.take (min high t.length) = t.take high := by
    rw [List.take_eq_take_iff]
    omega
  rw [htake]
  by_cases hlow : low ≤ t.length
  · rw [Nat.min_eq_left hlow, List.drop_take]
  · have hbeyond : t.length ≤ low := Nat.le_of_not_le hlow
    rw [Nat.min_eq_right hbeyond, List.drop_eq_nil_of_le hbeyond, List.take_nil]
    apply List.drop_eq_nil_of_le
    rw [List.length_take]
    exact Nat.min_le_right _ _

/-- The selected text is the part of the text that the selection spans. -/
theorem selected_eq_slice (b : Buffer) (h : b.selection.anchor ≤ b.selection.head) :
    b.selected = b.unit.slice b.text b.selection.anchor b.selection.head := by
  unfold selected
  simp only [Nat.min_eq_left h, Nat.max_eq_right h]
  have hcharacters : ∀ u : OffsetUnit,
      (b.text.take (u.bytesBefore b.selection.head 0 b.text.pieces)).drop
          (u.bytesBefore b.selection.anchor 0 b.text.pieces) =
        Text.ofPieces (u.between b.selection.anchor b.selection.head 0 b.text.pieces) := by
    intro u
    have hslice := u.take_drop_bytesBefore h 0 b.text.pieces
    rw [Text.ofPieces_pieces] at hslice
    exact hslice
  cases b.unit with
  | byte =>
    simp only [OffsetUnit.byteOffset, OffsetUnit.slice]
    exact take_min_drop_min b.text b.selection.anchor b.selection.head
  | rune => exact hcharacters .rune
  | utf16 => exact hcharacters .utf16
  | other name => exact hcharacters (.other name)

end Buffer

end SyntaxPlayground
