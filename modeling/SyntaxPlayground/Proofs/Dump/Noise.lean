import Mathlib.Logic.Relation
import SyntaxPlayground.Proofs.Dump.Ancestry

/-!
# Noise in a dump

What a dump says is in its first line and in the indented records after it. So it gives the same tree, or
none, when lines come or go that are no such records, when lines get or lose carriage returns at their end,
and when a newline is put at the very end of the text or taken away from there: `ofDump?_eq_of_edits`, for any
number of such edits. The reader depends on the lines of a text only through `Dump.reading`, and every `Edit`
leaves that as it is (`Edit.reading_eq`).
-/

namespace SyntaxPlayground

/-! ## Edits -/

namespace Dump

/-- The line does not count where it stands after the first: it is no record, or one at level 0. -/
def IsNoise (line : Text) : Prop :=
  ∀ r, Record.ofLine? line = some r → r.level = 0

/-- A line ends where this rest of a text begins. -/
def EndsLine (after : Text) : Prop :=
  after = [] ∨ ∃ rest, after = 10 :: rest

/-- One edit of a dump: a line of noise is put after some line, a line gets a carriage return at its end, or
the text gets a newline at its end. The other way round the edit takes these away. -/
inductive Edit : Text → Text → Prop
  | line (before line after : Text) (hends : EndsLine after) (hline : 10 ∉ line)
      (hnoise : IsNoise line) : Edit (before ++ after) (before ++ 10 :: (line ++ after))
  | carriageReturn (before after : Text) (hends : EndsLine after) :
      Edit (before ++ after) (before ++ 13 :: after)
  | newline (text : Text) : Edit text (text ++ [10])

/-- Where a line ends, the lines of a text are those before and those after. -/
theorem EndsLine.exists_lines {after : Text} (h : EndsLine after) :
    ∃ later, ∀ before : Text, Text.lines (before ++ after) = before.lines ++ later := by
  rcases h with rfl | ⟨rest, rfl⟩
  · refine ⟨[], fun before => ?_⟩
    rw [List.append_nil, List.append_nil]
  · exact ⟨Text.lines rest, fun before => Text.lines_append_newline before rest⟩

/-! ## What the reader takes from the lines -/

/-- What the reader takes from the lines of a text: the first without its carriage returns, and the records of
the others that are indented. -/
def reading (ls : List Text) : Text × List Record :=
  ((ls.headD []).dropReturns, ((ls.drop 1).filterMap Record.ofLine?).filter (1 ≤ ·.level))

theorem reading_lines (text : Text) : reading text.lines = (headline text, recordsBelow text) := by
  have hhead : text.lines.headD [] = text.takeWhile (· ≠ 10) := by
    rcases firstLine_cases text with ⟨_, htake, hlines⟩ | ⟨rest, _, hlines⟩
    · rw [hlines, htake, List.headD_cons]
    · rw [hlines, List.headD_cons]
  rw [reading, hhead]
  rfl

theorem filter_filterMap_ofLine?_of_isNoise {line : Text} (h : IsNoise line) :
    ([line].filterMap Record.ofLine?).filter (1 ≤ ·.level) = [] := by
  cases hread : Record.ofLine? line with
  | none => rw [List.filterMap_cons_none hread, List.filterMap_nil, List.filter_nil]
  | some r =>
    rw [List.filterMap_cons_some hread, List.filterMap_nil, List.filter_cons, h r hread]
    rfl

/-- A line of noise after others says nothing. -/
theorem reading_of_isNoise {line : Text} (h : IsNoise line) {earlier : List Text}
    (hearlier : earlier ≠ []) (later : List Text) :
    reading (earlier ++ [line] ++ later) = reading (earlier ++ later) := by
  obtain ⟨first, earlier, rfl⟩ := List.exists_cons_of_ne_nil hearlier
  have hnone := filter_filterMap_ofLine?_of_isNoise h
  unfold reading
  simp only [List.cons_append, List.headD_cons, List.drop_one, List.tail_cons, List.filterMap_append,
    List.filter_append, hnone, List.append_nil]

/-- A carriage return at the end of a line says nothing. -/
theorem reading_append_return (earlier : List Text) (line : Text) (later : List Text) :
    reading (earlier ++ [line ++ [13]] ++ later) = reading (earlier ++ [line] ++ later) := by
  unfold reading
  cases earlier with
  | nil =>
    -- the first line is taken without its carriage returns
    simp only [List.nil_append, List.cons_append, List.headD_cons, Text.dropReturns_append_return,
      List.drop_one, List.tail_cons]
  | cons first earlier =>
    -- on every other line it is decoding that drops them
    have hline : Record.ofLine? (line ++ [13]) = Record.ofLine? line := by
      rw [← Record.ofLine?_dropReturns, Text.dropReturns_append_return, Record.ofLine?_dropReturns]
    simp only [List.cons_append, List.headD_cons, List.drop_one, List.tail_cons,
      List.filterMap_append, List.filterMap_cons, hline]

/-- An edit leaves what the reader takes as it is. -/
theorem Edit.reading_eq {d d' : Text} (h : Edit d d') : reading d'.lines = reading d.lines := by
  cases h with
  | line before line after hends hline hnoise =>
    obtain ⟨later, hlater⟩ := hends.exists_lines
    have hone : line.lines = [line] := Text.splitByte_of_notMem hline
    rw [Text.lines_append_newline, hlater, hlater, hone, ← List.append_assoc]
    exact reading_of_isNoise hnoise (Text.lines_ne_nil before) later
  | carriageReturn before after hends =>
    obtain ⟨later, hlater⟩ := hends.exists_lines
    -- the carriage return belongs to the last of the lines before the place of the edit
    obtain ⟨init, last, hbefore, hmore⟩ := Text.exists_lines_append (b := 13) (by decide) before
    rw [List.append_cons, hlater, hlater, hmore, hbefore]
    exact reading_append_return init last later
  | newline =>
    -- the newline begins one more line, with nothing on it
    have hempty : IsNoise [] := fun r hr => by cases hr
    rw [Text.lines_append_newline]
    have hlast := reading_of_isNoise hempty (Text.lines_ne_nil d) []
    rw [List.append_nil, List.append_nil] at hlast
    exact hlast

end Dump

namespace Tree

open Dump

/-- The tree of a dump depends only on what the reader takes from its lines. -/
theorem ofDump?_congr {d d' : Text} (h : reading d'.lines = reading d.lines) :
    ofDump? d' = ofDump? d := by
  rw [reading_lines, reading_lines, Prod.mk.injEq] at h
  obtain ⟨hheadline, hbelow⟩ := h
  have hroot : root? d' = root? d := by
    apply Option.ext
    intro root
    rw [root?_eq_some_iff, root?_eq_some_iff, hheadline]
  unfold ofDump?
  rw [hroot, records_eq, records_eq, hbelow]

/-- Edits, in either direction and any number of them, leave the tree of a dump as it is; and a text that
gives no tree gives none after them. -/
theorem ofDump?_eq_of_edits {d d' : Text} (h : Relation.EqvGen Edit d d') :
    ofDump? d' = ofDump? d := by
  apply ofDump?_congr
  induction h with
  | rel d d' hedit => exact hedit.reading_eq
  | refl d => rfl
  | symm d d' _ ih => exact ih.symm
  | trans d d' d'' _ _ ih ih' => exact ih'.trans ih

/-- A dump that loses the newline at its end, gets a carriage return after its first line, and then a line
that is no record. -/
theorem ofDump?_eq_of_edits_unindentedLine :
    Relation.EqvGen Edit (utf8 "Program\n  A\n    B\n") (utf8 "Program\r\nnote\n  A\n    B") ∧
      ofDump? (utf8 "Program\r\nnote\n  A\n    B") = ofDump? (utf8 "Program\n  A\n    B\n") := by
  have hedits : Relation.EqvGen Edit (utf8 "Program\n  A\n    B\n")
      (utf8 "Program\r\nnote\n  A\n    B") := by
    have hends : EndsLine (utf8 "\n  A\n    B") := Or.inr ⟨utf8 "  A\n    B", rfl⟩
    have hnoise : IsNoise (utf8 "note") := by
      intro r hr
      have hread : Record.ofLine? (utf8 "note") = some ⟨utf8 "note", 0, none⟩ := rfl
      rw [hread] at hr
      cases hr
      rfl
    refine .trans _ (utf8 "Program\n  A\n    B") _ (.symm _ _ (.rel _ _ (Edit.newline _))) ?_
    refine .trans _ (utf8 "Program\r\n  A\n    B") _ (.rel _ _ ?_) (.rel _ _ ?_)
    · exact Edit.carriageReturn (utf8 "Program") _ hends
    · exact Edit.line (utf8 "Program\r") (utf8 "note") _ hends (by decide) hnoise
  exact ⟨hedits, ofDump?_eq_of_edits hedits⟩

end Tree

end SyntaxPlayground
