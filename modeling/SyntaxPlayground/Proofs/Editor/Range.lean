import SyntaxPlayground.Proofs.Editor.Slice
import SyntaxPlayground.Proofs.Text.Pieces

/-!
# The selection of a buffer

A buffer is edited by replacing its text and by selecting a range of it. Whatever the unit, the text and
the edits are, the selection lies in the text, and the selected part measures what its offsets say:

* `total_between`: the characters that begin before an offset measure that offset, or one unit more if
  the offset points into the middle of a surrogate pair;
* `measure_slice_append`: a slice measures as much on its own as it does in its place;
* `Buffer.selection_in_range`: what holds of a buffer after every sequence of edits.
-/

namespace SyntaxPlayground

namespace OffsetUnit

variable {u : OffsetUnit} {low high position : Nat}

/-! ## Slices cut the characters -/

/-- What some characters measure together. -/
def total (u : OffsetUnit) (ps : List Piece) : Nat :=
  ps.foldr (fun p n => u.ofPiece p + n) 0

@[simp] theorem total_nil : u.total [] = 0 := rfl

@[simp] theorem total_cons (p : Piece) (ps : List Piece) :
    u.total (p :: ps) = u.ofPiece p + u.total ps := rfl

@[simp] theorem total_append (ps qs : List Piece) : u.total (ps ++ qs) = u.total ps + u.total qs := by
  induction ps with
  | nil => simp
  | cons p ps ih => simp [ih, Nat.add_assoc]

/-- Two slices that meet make one. -/
theorem between_append_between (h : low ≤ high) (position : Nat) (ps : List Piece) :
    u.between 0 low position ps ++ u.between low high position ps = u.between 0 high position ps := by
  induction ps generalizing position with
  | nil => rfl
  | cons p ps ih =>
    have hrest := ih (position + u.ofPiece p)
    by_cases hlow : low ≤ position
    · -- nothing is left for the first slice
      have hnone : ∀ qs, u.between 0 low (position + u.ofPiece p) qs = [] := by
        intro qs
        exact between_of_le (by omega) qs
      rw [hnone, List.nil_append] at hrest
      rw [between_of_le hlow, List.nil_append]
      simp only [between, hlow, Nat.zero_le, true_and, hrest]
    · have hhigh : position < high := by omega
      have hbefore : position < low := by omega
      simp only [between, hlow, hhigh, hbefore, Nat.zero_le, true_and, false_and, if_true, if_false,
        List.cons_append, hrest]

/-- What begins before an offset comes first. -/
theorem exists_eq_between_append (u : OffsetUnit) (offset position : Nat) (ps : List Piece) :
    ∃ rest, ps = u.between 0 offset position ps ++ rest := by
  induction ps generalizing position with
  | nil => exact ⟨[], rfl⟩
  | cons p ps ih =>
    by_cases hbefore : position < offset
    · obtain ⟨rest, hrest⟩ := ih (position + u.ofPiece p)
      refine ⟨rest, ?_⟩
      simp only [between, Nat.zero_le, hbefore, and_self, if_true, List.cons_append]
      rw [← hrest]
    · refine ⟨p :: ps, ?_⟩
      rw [between_of_le (by omega), List.nil_append]

/-! ## Rounding -/

/-- Whether `offset` lies between the two units of a character that measures two, when the first
character begins at `position`. -/
def splitsPair (u : OffsetUnit) (offset : Nat) : Nat → List Piece → Bool
  | _, [] => false
  | position, p :: ps =>
    (u.ofPiece p == 2 && offset == position + 1) || splitsPair u offset (position + u.ofPiece p) ps

/-- The place that an offset stands for: an offset inside a surrogate pair stands for the place after the
pair, and every other one for itself. -/
def rounded (u : OffsetUnit) (t : Text) (offset : Nat) : Nat :=
  match u with
  | utf16 => if splitsPair utf16 offset 0 t.pieces then offset + 1 else offset
  | byte | rune | other _ => offset

theorem splitsPair_of_le {offset : Nat} (h : offset ≤ position) (ps : List Piece) :
    u.splitsPair offset position ps = false := by
  induction ps generalizing position with
  | nil => rfl
  | cons p ps ih =>
    have hnot : (offset == position + 1) = false := by
      rw [beq_eq_false_iff_ne]
      omega
    rw [splitsPair, hnot, ih (by omega), Bool.and_false, Bool.or_false]

/-- No offset splits a character that measures one. -/
theorem splitsPair_of_one (h : ∀ p, u.ofPiece p = 1) (offset position : Nat) (ps : List Piece) :
    u.splitsPair offset position ps = false := by
  induction ps generalizing position with
  | nil => rfl
  | cons p ps ih =>
    have hone : (u.ofPiece p == 2) = false := by
      rw [h p]
      rfl
    rw [splitsPair, hone, ih, Bool.false_and, Bool.or_false]

/-- The characters that begin before an offset measure up to it, or one unit more if it splits the last
one of them. -/
theorem total_between (hu : ∀ p, u.ofPiece p = 1 ∨ u.ofPiece p = 2) {offset : Nat} {ps : List Piece}
    (hstart : position ≤ offset) (hstop : offset ≤ position + u.total ps) :
    position + u.total (u.between 0 offset position ps) =
      if u.splitsPair offset position ps then offset + 1 else offset := by
  induction ps generalizing position with
  | nil =>
    have hend : offset = position := by
      rw [total_nil] at hstop
      omega
    rw [hend]
    rfl
  | cons p ps ih =>
    rw [total_cons] at hstop
    by_cases hbefore : position < offset
    · have hslice : u.between 0 offset position (p :: ps) =
          p :: u.between 0 offset (position + u.ofPiece p) ps := by
        simp only [between, Nat.zero_le, hbefore, and_self, if_true]
      rw [hslice, total_cons]
      by_cases hinside : u.ofPiece p = 2 ∧ offset = position + 1
      · -- the offset splits this character, which is the last one that begins before it
        obtain ⟨htwo, hoffset⟩ := hinside
        have hlast : u.between 0 offset (position + u.ofPiece p) ps = [] :=
          between_of_le (by omega) ps
        have hsplits : u.splitsPair offset position (p :: ps) = true := by
          rw [splitsPair, htwo, hoffset]
          simp
        rw [hlast, hsplits, total_nil, if_pos rfl]
        omega
      · have hnext : position + u.ofPiece p ≤ offset := by
          rcases hu p with hone | htwo <;> omega
        have hsplits : u.splitsPair offset position (p :: ps) =
            u.splitsPair offset (position + u.ofPiece p) ps := by
          have hnot : (u.ofPiece p == 2 && offset == position + 1) = false := by
            rw [Bool.and_eq_false_iff, beq_eq_false_iff_ne, beq_eq_false_iff_ne]
            exact not_and_or.mp hinside
          rw [splitsPair, hnot, Bool.false_or]
        have hrest := ih hnext (by omega)
        rw [hsplits, ← hrest]
        omega
    · have hend : offset = position := by omega
      rw [hend, between_of_le (Nat.le_refl position), splitsPair_of_le (Nat.le_refl position)]
      rfl

/-! ## What a slice measures -/

/-- In every unit but bytes a text measures what its characters do. -/
theorem measure_of_ne_byte (hu : u ≠ byte) (t : Text) : u.measure t = u.total t.pieces := by
  cases u with
  | byte => exact absurd rfl hu
  | rune => rfl
  | utf16 => rfl
  | other name => rfl

theorem slice_of_ne_byte (hu : u ≠ byte) (t : Text) (low high : Nat) :
    u.slice t low high = Text.ofPieces (u.between low high 0 t.pieces) := by
  cases u with
  | byte => exact absurd rfl hu
  | rune => rfl
  | utf16 => rfl
  | other name => rfl

theorem ofPiece_of_ne_byte (hu : u ≠ byte) (p : Piece) : u.ofPiece p = 1 ∨ u.ofPiece p = 2 := by
  cases u with
  | byte => exact absurd rfl hu
  | rune => exact Or.inl rfl
  | utf16 =>
    have hunits : utf16.ofPiece p = if p.scalar < 0x10000 then 1 else 2 := rfl
    rw [hunits]
    split
    · exact Or.inl rfl
    · exact Or.inr rfl
  | other name => exact Or.inl rfl

theorem rounded_of_ne_byte (hu : u ≠ byte) (t : Text) (offset : Nat) :
    u.rounded t offset = if u.splitsPair offset 0 t.pieces then offset + 1 else offset := by
  cases u with
  | byte => exact absurd rfl hu
  | rune => rw [splitsPair_of_one fun _ => rfl]; rfl
  | utf16 => rfl
  | other name => rw [splitsPair_of_one fun _ => rfl]; rfl

/-- The characters before an offset of the text, and those between two offsets, are the characters of the
slices, although a slice is only made of bytes. -/
theorem pieces_slice (hu : u ≠ byte) (h : low ≤ high) (t : Text) :
    (u.slice t 0 low).pieces = u.between 0 low 0 t.pieces ∧
      (u.slice t low high).pieces = u.between low high 0 t.pieces := by
  obtain ⟨rest, hrest⟩ := u.exists_eq_between_append high 0 t.pieces
  rw [← between_append_between h, List.append_assoc] at hrest
  obtain ⟨hfront, hback⟩ := Text.pieces_of_split hrest
  rw [slice_of_ne_byte hu, slice_of_ne_byte hu]
  exact ⟨hfront, (Text.pieces_of_split hback).1⟩

/-- A slice measures as much on its own as it does in its place: what stands before it measures its first
offset, and together they measure the second one. -/
theorem measure_slice_append (h : low ≤ high) {t : Text} (hhigh : high ≤ u.measure t) :
    u.measure (u.slice t 0 low) = u.rounded t low ∧
      u.rounded t low + u.measure (u.slice t low high) = u.rounded t high := by
  by_cases hu : u = byte
  · subst hu
    have hlength : high ≤ t.length := hhigh
    simp only [measure, slice, rounded, List.length_take, List.length_drop]
    omega
  · rw [measure_of_ne_byte hu] at hhigh
    have hunits := ofPiece_of_ne_byte hu
    have hlow : u.total (u.between 0 low 0 t.pieces) = u.rounded t low := by
      rw [rounded_of_ne_byte hu, ← total_between hunits (Nat.zero_le low) (by omega), Nat.zero_add]
    have hboth : u.total (u.between 0 high 0 t.pieces) = u.rounded t high := by
      rw [rounded_of_ne_byte hu, ← total_between hunits (Nat.zero_le high) (by omega), Nat.zero_add]
    obtain ⟨hfront, hback⟩ := pieces_slice hu h t
    rw [← between_append_between h, total_append, hlow] at hboth
    rw [measure_of_ne_byte hu, measure_of_ne_byte hu, hfront, hback]
    exact ⟨hlow, hboth⟩

/-! ## The bytes of a slice -/

theorem bytesBefore_eq (u : OffsetUnit) (offset position : Nat) (ps : List Piece) :
    u.bytesBefore offset position ps = (Text.ofPieces (u.between 0 offset position ps)).length := by
  induction ps generalizing position with
  | nil => rfl
  | cons p ps ih =>
    by_cases hbefore : offset ≤ position
    · rw [bytesBefore_of_le hbefore, between_of_le hbefore]
      rfl
    · have hlt : position < offset := by omega
      simp only [bytesBefore, between, hbefore, hlt, Nat.zero_le, and_self, if_true, if_false, ih,
        Text.ofPieces, List.flatMap_cons, List.length_append]

/-- Offsets turn into bytes of the text in order. -/
theorem byteOffset_mono (h : low ≤ high) (t : Text) :
    u.byteOffset t low ≤ u.byteOffset t high ∧ u.byteOffset t high ≤ t.length := by
  have hcharacters : u.bytesBefore low 0 t.pieces ≤ u.bytesBefore high 0 t.pieces ∧
      u.bytesBefore high 0 t.pieces ≤ t.length := by
    obtain ⟨rest, hrest⟩ := u.exists_eq_between_append high 0 t.pieces
    have htext : (Text.ofPieces t.pieces).length = t.length := by rw [Text.ofPieces_pieces]
    rw [hrest, ← between_append_between h] at htext
    rw [bytesBefore_eq, bytesBefore_eq, ← between_append_between h]
    simp only [Text.ofPieces, List.flatMap_append, List.length_append] at htext ⊢
    omega
  cases u with
  | byte =>
    simp only [byteOffset]
    omega
  | rune => exact hcharacters
  | utf16 => exact hcharacters
  | other name => exact hcharacters

/-- What stands before an offset is a slice, too. -/
theorem take_byteOffset (u : OffsetUnit) (t : Text) (offset : Nat) :
    t.take (u.byteOffset t offset) = u.slice t 0 offset := by
  have hcharacters : t.take (u.bytesBefore offset 0 t.pieces) =
      Text.ofPieces (u.between 0 offset 0 t.pieces) := by
    have hslice := u.take_drop_bytesBefore (Nat.zero_le offset) 0 t.pieces
    rw [Text.ofPieces_pieces, bytesBefore_of_le (Nat.le_refl 0), List.drop_zero] at hslice
    exact hslice
  cases u with
  | byte =>
    simp only [byteOffset, slice, List.drop_zero, Nat.sub_zero]
    rw [List.take_eq_take_iff]
    omega
  | rune => exact hcharacters
  | utf16 => exact hcharacters
  | other name => exact hcharacters

end OffsetUnit

/-! ## Edits -/

namespace Buffer

/-- What may be done to a buffer. -/
inductive Edit where
  | setText (t : Text)
  | select (start stop : Int)

/-- A buffer after an edit; a range that cannot be selected changes nothing. -/
def edited (b : Buffer) : Edit → Buffer
  | .setText t => b.setText t
  | .select start stop =>
    match b.select start stop with
    | .ok b' => b'
    | .error _ => b

/-- A buffer after several edits. -/
def editedAll (b : Buffer) (edits : List Edit) : Buffer :=
  edits.foldl edited b

/-- The selection lies in the text. -/
structure InRange (b : Buffer) : Prop where
  ordered : b.selection.anchor ≤ b.selection.head
  bounded : b.selection.head ≤ b.length

variable {b : Buffer}

/-- Whether a range lies in the text. -/
def Admits (b : Buffer) (start stop : Int) : Prop :=
  0 ≤ start ∧ start ≤ stop ∧ stop ≤ b.length

theorem select_of_admits {start stop : Int} (h : b.Admits start stop) :
    b.select start stop = .ok { b with selection := ⟨start.toNat, stop.toNat⟩ } := by
  obtain ⟨hstart, horder, hstop⟩ := h
  have hin : ¬ (start < 0 ∨ stop < start ∨ (b.length : Int) < stop) := by omega
  rw [select, if_neg hin]

theorem select_of_not_admits {start stop : Int} (h : ¬ b.Admits start stop) :
    b.select start stop = .error ⟨start, stop, b.length⟩ := by
  have hout : start < 0 ∨ stop < start ∨ (b.length : Int) < stop := by
    unfold Admits at h
    omega
  rw [select, if_pos hout]

/-- Selecting fails exactly for a range that does not lie in the text. -/
theorem select_eq_error_iff {start stop : Int} :
    b.select start stop = .error ⟨start, stop, b.length⟩ ↔ ¬ b.Admits start stop := by
  constructor
  · intro herror hadmits
    rw [select_of_admits hadmits] at herror
    cases herror
  · exact select_of_not_admits

theorem edited_of_not_admits {start stop : Int} (h : ¬ b.Admits start stop) :
    b.edited (.select start stop) = b := by
  simp only [edited, select_of_not_admits h]

theorem edited_of_admits {start stop : Int} (h : b.Admits start stop) :
    b.edited (.select start stop) = { b with selection := ⟨start.toNat, stop.toNat⟩ } := by
  simp only [edited, select_of_admits h]

/-- Every edit keeps the selection in the text, and the unit. -/
theorem InRange.edited (h : b.InRange) (e : Edit) : (b.edited e).InRange ∧ (b.edited e).unit = b.unit := by
  cases e with
  | setText t => exact ⟨⟨Nat.le_refl 0, Nat.zero_le _⟩, rfl⟩
  | select start stop =>
    by_cases hadmits : b.Admits start stop
    · rw [edited_of_admits hadmits]
      obtain ⟨hstart, horder, hstop⟩ := hadmits
      have hlength : Buffer.length { b with selection := ⟨start.toNat, stop.toNat⟩ } = b.length := rfl
      refine ⟨⟨?_, ?_⟩, rfl⟩
      · exact Int.toNat_le_toNat horder
      · rw [hlength]
        exact Int.toNat_le.mpr hstop
    · rw [edited_of_not_admits hadmits]
      exact ⟨h, rfl⟩

theorem InRange.editedAll (h : b.InRange) (edits : List Edit) :
    (b.editedAll edits).InRange ∧ (b.editedAll edits).unit = b.unit := by
  induction edits generalizing b with
  | nil => exact ⟨h, rfl⟩
  | cons e edits ih =>
    obtain ⟨hrange, hunit⟩ := h.edited e
    obtain ⟨hall, hsame⟩ := ih hrange
    exact ⟨hall, hsame.trans hunit⟩

/-- The text falls into what stands before the selection, the selected part and what stands after it. -/
theorem InRange.text_eq (h : b.InRange) :
    b.text = b.unit.slice b.text 0 b.selection.anchor ++ b.selected ++
      b.text.drop (b.unit.byteOffset b.text b.selection.head) := by
  have hbytes := (b.unit.byteOffset_mono h.ordered b.text).1
  have hselected : b.selected =
      (b.text.take (b.unit.byteOffset b.text b.selection.head)).drop
        (b.unit.byteOffset b.text b.selection.anchor) := by
    simp only [selected, Nat.min_eq_left h.ordered, Nat.max_eq_right h.ordered]
  have hfront : b.text.take (b.unit.byteOffset b.text b.selection.anchor) =
      (b.text.take (b.unit.byteOffset b.text b.selection.head)).take
        (b.unit.byteOffset b.text b.selection.anchor) := by
    rw [List.take_take, Nat.min_eq_left hbytes]
  rw [← OffsetUnit.take_byteOffset, hselected, hfront, List.take_append_drop, List.take_append_drop]

/-- After every sequence of edits of a new buffer the selection lies in the text; selecting fails exactly
for a range that does not lie in the text, and then changes nothing; the bytes that the selection stands for
lie in the text; and the selected part, which splits the text, begins and ends where its offsets say, an
offset inside a surrogate pair being rounded up. -/
theorem selection_in_range (u : OffsetUnit) (edits : List Edit) :
    let b := editedAll { unit := u } edits
    b.selection.anchor ≤ b.selection.head ∧ b.selection.head ≤ b.length ∧
    (∀ start stop : Int,
      (b.select start stop = .error ⟨start, stop, b.length⟩ ↔
        ¬ (0 ≤ start ∧ start ≤ stop ∧ stop ≤ b.length)) ∧
      b.edited (.select start stop) =
        if 0 ≤ start ∧ start ≤ stop ∧ stop ≤ b.length then
          { b with selection := ⟨start.toNat, stop.toNat⟩ }
        else b) ∧
    u.byteOffset b.text b.selection.anchor ≤ u.byteOffset b.text b.selection.head ∧
    u.byteOffset b.text b.selection.head ≤ b.text.length ∧
    ∃ pre post, b.text = pre ++ b.selected ++ post ∧
      u.measure pre = u.rounded b.text b.selection.anchor ∧
      u.rounded b.text b.selection.anchor + u.measure b.selected =
        u.rounded b.text b.selection.head := by
  intro b
  have hempty : InRange { unit := u } := ⟨Nat.le_refl 0, Nat.zero_le _⟩
  obtain ⟨hrange, hunit⟩ : b.InRange ∧ b.unit = u := hempty.editedAll edits
  have hlength : b.selection.head ≤ u.measure b.text := by
    rw [← hunit]
    exact hrange.bounded
  have hbytes := u.byteOffset_mono hrange.ordered b.text
  have hselected : b.selected = u.slice b.text b.selection.anchor b.selection.head := by
    rw [← hunit]
    exact b.selected_eq_slice hrange.ordered
  have htext := hrange.text_eq
  obtain ⟨hpre, hboth⟩ := OffsetUnit.measure_slice_append hrange.ordered hlength
  rw [hunit] at htext
  refine ⟨hrange.ordered, hrange.bounded, ?_, hbytes.1, hbytes.2, _, _, htext, hpre, ?_⟩
  · intro start stop
    refine ⟨select_eq_error_iff, ?_⟩
    split
    · next hadmits => exact edited_of_admits hadmits
    · next hrefuses => exact edited_of_not_admits hrefuses
  · rw [hselected]
    exact hboth

/-- The offset 2 lies inside the pair, so the selection begins after it. -/
example : selected ⟨.utf16, utf8 "a😀b", ⟨2, 4⟩⟩ = utf8 "b" := by decide

end Buffer

end SyntaxPlayground
