import SyntaxPlayground.Proofs.Dump.Line
import SyntaxPlayground.Proofs.Text.WhiteSpace

/-!
# The grammar of dump lines

A line spells a record, `Record.IsSpelled`, if it consists of spaces, a head that holds no `@`, and nothing
or an `@` with a span. The kind is the head without the white space at its ends, and a span is two numerals
around two dots, with white space around the whole. The reader accepts exactly the lines that spell a record,
and reads that record: `ofLine?_eq_some_iff_isSpelled`.
-/

namespace SyntaxPlayground

/-! ## Spans -/

namespace Span

open Text

/-- The text spells the span: its two numbers around two dots, in order and in the range of 64-bit words,
and white space around the whole. -/
inductive IsSpelled : Text → Span → Prop where
  | numerals {front first second back : Text} {start stop : Nat} (hfront : front.IsWhiteSpace)
      (hfirst : first.IsNumeral start) (hsecond : second.IsNumeral stop) (hback : back.IsWhiteSpace)
      (hstart : (start : Int) ≤ maxInt64) (hstop : (stop : Int) ≤ maxInt64) (horder : start ≤ stop) :
      IsSpelled (front ++ (first ++ utf8 ".." ++ second) ++ back) ⟨start, stop⟩

theorem isSpelled_of_ofSuffix? {t : Text} {s : Span} (h : ofSuffix? t = some s) : IsSpelled t s := by
  unfold ofSuffix? at h
  split at h
  · cases h
  · rename_i first second hcut
    split at h
    · rename_i start stop hstart hstop
      rw [Option.ite_none_right_eq_some, Option.some_inj] at h
      obtain ⟨horder, rfl⟩ := h
      obtain ⟨hfirst, hfits⟩ := readDigits?_eq_some_iff.mp hstart
      obtain ⟨hsecond, hfits'⟩ := readDigits?_eq_some_iff.mp hstop
      obtain ⟨front, back, hfront, hback, hsplit⟩ := (isTrimmed_trim t).split
      rw [hsplit, eq_of_cut?_some hcut]
      exact .numerals hfront hfirst hsecond hback hfits hfits' horder
    · cases h

/-- Numerals and dots have no white space at their ends. -/
theorem trim_numerals {first second : Text} {start stop : Nat} (hfirst : first.IsNumeral start)
    (hsecond : second.IsNumeral stop) :
    (first ++ utf8 ".." ++ second).trim = first ++ utf8 ".." ++ second := by
  have hdots : utf8 ".." = List.replicate 2 46 := rfl
  apply trim_eq_self
  intro b hb
  apply basic_of_isDigit
  rcases List.mem_append.mp hb with hb | hb
  · rcases List.mem_append.mp hb with hb | hb
    · exact Or.inl ((isNumeral_iff.mp hfirst).2.1 b hb)
    · rw [hdots] at hb
      exact Or.inr (List.eq_of_mem_replicate hb)
  · exact Or.inl ((isNumeral_iff.mp hsecond).2.1 b hb)

theorem IsSpelled.ofSuffix? {t : Text} {s : Span} (h : IsSpelled t s) : ofSuffix? t = some s := by
  cases h with
  | @numerals front first second back start stop hfront hfirst hsecond hback hstart hstop horder =>
    have hdots : utf8 ".." = [46, 46] := rfl
    -- the first numeral holds no dot, so the first two dots are those after it
    have hnone : 46 ∉ first := by
      intro hmem
      have hdigit := (isNumeral_iff.mp hfirst).2.1 46 hmem
      revert hdigit
      decide
    have hcut : cut? (first ++ utf8 ".." ++ second) (utf8 "..") = some (first, second) := by
      rw [hdots, List.append_assoc]
      exact cut?_dots hnone second
    have hstart' := readDigits?_eq_some_iff.mpr ⟨hfirst, hstart⟩
    have hstop' := readDigits?_eq_some_iff.mpr ⟨hsecond, hstop⟩
    unfold Span.ofSuffix?
    rw [trim_append hfront hback (trim_numerals hfirst hsecond), hcut]
    simp only [hstart', hstop', horder, if_true]

end Span

/-! ## Records -/

/-- The head of a line and the kind that stands in it. -/
structure Text.IsHead (head kind : Text) : Prop where
  noAt : 64 ∉ head
  noSpace : head.head? ≠ some 32
  trimmed : head.IsTrimmed kind
  nonempty : kind ≠ []

namespace Record

open Text

/-- The line spells the record: spaces, twice as many as its level or one more, a head with its kind, and
its span, if it has one, after an `@`. -/
inductive IsSpelled : Text → Record → Prop where
  | plain (indent : Nat) {head kind : Text} (hhead : head.IsHead kind) :
      IsSpelled (List.replicate indent 32 ++ head) ⟨kind, indent / 2, none⟩
  | spanned (indent : Nat) {head kind suffix : Text} {span : Span} (hhead : head.IsHead kind)
      (hsuffix : span.IsSpelled suffix) :
      IsSpelled (List.replicate indent 32 ++ (head ++ utf8 "@" ++ suffix)) ⟨kind, indent / 2, some span⟩

/-- A line is its indentation and a body that begins with no space. -/
theorem exists_indented (t : Text) :
    t = List.replicate (t.takeWhile (· = 32)).length 32 ++ t.dropWhile (· = 32) ∧
      (t.dropWhile (· = 32)).head? ≠ some 32 := by
  constructor
  · rw [← Text.takeWhile_eq_replicate, List.takeWhile_append_dropWhile]
  · exact Text.head?_dropWhile_ne 32 t

theorem isHead_trim {head : Text} (hat : 64 ∉ head) (hspace : head.head? ≠ some 32)
    (hne : ¬ head.trim.isEmpty = true) : head.IsHead head.trim :=
  ⟨hat, hspace, isTrimmed_trim head, fun hnil => hne (List.isEmpty_iff.mpr hnil)⟩

/-- What is read from a line is spelled by it. -/
theorem isSpelled_of_ofLine? {line : Text} {r : Record} (h : ofLine? line = some r) :
    IsSpelled line.dropReturns r := by
  obtain ⟨hindent, hspace⟩ := exists_indented line.dropReturns
  unfold ofLine? at h
  simp only at h
  split at h
  · rename_i hcut
    split at h
    · cases h
    · rename_i hne
      cases h
      have hline := IsSpelled.plain (line.dropReturns.takeWhile (· = 32)).length
        (isHead_trim (notMem_of_cutByte?_none hcut) hspace hne)
      rwa [← hindent] at hline
  · rename_i head suffix hcut
    obtain ⟨hat, hsplit⟩ := eq_of_cutByte?_some hcut
    split at h
    · cases h
    · rename_i hne
      obtain ⟨s, hs, rfl⟩ := Option.map_eq_some_iff.mp h
      have hbody : head ++ utf8 "@" ++ suffix = line.dropReturns.dropWhile (· = 32) := by
        rw [hsplit, List.append_assoc]
        rfl
      have hspace' : head.head? ≠ some 32 := by
        intro hhead
        rw [hsplit, List.head?_append, hhead] at hspace
        exact hspace rfl
      have hline := IsSpelled.spanned (line.dropReturns.takeWhile (· = 32)).length
        (isHead_trim hat hspace' hne) (Span.isSpelled_of_ofSuffix? hs)
      rwa [hbody, ← hindent] at hline

/-- What a line spells is read from it. -/
theorem IsSpelled.ofLine? {line : Text} {r : Record} (h : IsSpelled line.dropReturns r) :
    ofLine? line = some r := by
  unfold Record.ofLine?
  generalize line.dropReturns = t at h
  cases h with
  | @plain indent head kind hhead =>
    obtain ⟨hlevel, hbody⟩ := takeWhile_indented indent hhead.noSpace
    have hkind := hhead.trimmed.trim_eq
    have hne : kind.isEmpty = false := List.isEmpty_eq_false_iff.mpr hhead.nonempty
    simp only [hlevel, hbody, cutByte?_of_notMem hhead.noAt, hkind, hne, Bool.false_eq_true, if_false]
  | @spanned indent head kind suffix span hhead hsuffix =>
    have hat : utf8 "@" = [64] := rfl
    have hspace : (head ++ utf8 "@" ++ suffix).head? ≠ some 32 := by
      cases head with
      | nil =>
        rw [hat, List.nil_append, List.singleton_append, List.head?_cons]
        decide
      | cons b u => exact hhead.noSpace
    obtain ⟨hlevel, hbody⟩ := takeWhile_indented indent hspace
    have hcut : cutByte? 64 (head ++ utf8 "@" ++ suffix) = some (head, suffix) := by
      rw [hat, List.append_assoc]
      exact cutByte?_append hhead.noAt suffix
    have hkind := hhead.trimmed.trim_eq
    have hne : kind.isEmpty = false := List.isEmpty_eq_false_iff.mpr hhead.nonempty
    simp only [hlevel, hbody, hcut, hkind, hne, hsuffix.ofSuffix?, Bool.false_eq_true, if_false,
      Option.map_some]

/-- The reader reads a record from a line exactly if the line, without the carriage returns at its end,
spells this record. -/
theorem ofLine?_eq_some_iff_isSpelled {line : Text} {r : Record} :
    ofLine? line = some r ↔ ∃ body returns, line = body ++ List.replicate returns 13 ∧
      body.getLast? ≠ some 13 ∧ IsSpelled body r := by
  constructor
  · intro h
    obtain ⟨⟨returns, hline⟩, hlast⟩ := dropReturns_eq_iff.mp (Eq.refl line.dropReturns)
    exact ⟨line.dropReturns, returns, hline, hlast, isSpelled_of_ofLine? h⟩
  · rintro ⟨body, returns, hline, hlast, hspelled⟩
    have hbody : line.dropReturns = body := dropReturns_eq_iff.mpr ⟨⟨returns, hline⟩, hlast⟩
    apply IsSpelled.ofLine?
    rw [hbody]
    exact hspelled

-- white space may stand around a span but not in it, and zeros in front of its numbers
example : ofLine? (utf8 "   A\tb @ 007..12\u3000\r") = some ⟨utf8 "A\tb", 1, some ⟨7, 12⟩⟩ ∧
    ofLine? (utf8 "  A @1.. 2") = none := by
  decide +kernel

end Record

end SyntaxPlayground
