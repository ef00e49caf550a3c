import SyntaxPlayground.Dump.Reader
import SyntaxPlayground.Proofs.Text.Cutting
import SyntaxPlayground.Proofs.Text.Decimal
import SyntaxPlayground.Proofs.Text.Pieces

/-!
# Lines of a dump

A record that can be written on one line reads back from it (`ofLine?_line`), and every record that was
read from a line can be written (`isWritable_of_ofLine?`). What it takes is `Record.IsWritable`: a kind
that trimming leaves alone and that holds neither an `@` nor a newline, and a span in the order and
range of the compiler's offsets.
-/

namespace SyntaxPlayground

/-! ## What can be written -/

namespace Span

/-- The span is in order and in the range of the compiler's offsets. -/
structure InRange (s : Span) : Prop where
  nonneg : 0 ≤ s.start
  ordered : s.start ≤ s.stop
  fits : s.stop ≤ maxInt64

end Span

/-- What a kind must be like so that it can stand in a dump. -/
structure Text.IsKind (k : Text) : Prop where
  nonempty : k ≠ []
  trimmed : k.trim = k
  noAt : 64 ∉ k
  noNewline : 10 ∉ k

namespace Record

/-- The record can stand on a line of a dump. -/
structure IsWritable (r : Record) : Prop where
  kind : r.kind.IsKind
  span : ∀ s, r.span = some s → s.InRange

/-- The text of a record without its indentation. -/
def label (r : Record) : Text :=
  match r.span with
  | none => r.kind
  | some s => r.kind ++ utf8 " " ++ s.text

/-- The line of a record. -/
def line (r : Record) : Text :=
  (utf8 "  ").times r.level ++ r.label

end Record

/-! ## Spans read back -/

namespace Span

open Text

variable {s : Span}

theorem text_eq (h : s.InRange) :
    s.text = 64 :: (ofNat s.start.toNat ++ 46 :: 46 :: ofNat s.stop.toNat) := by
  have hstop : 0 ≤ s.stop := Int.le_trans h.nonneg h.ordered
  have hat : utf8 "@" = [64] := rfl
  have hdots : utf8 ".." = [46, 46] := rfl
  unfold text
  rw [ofInt_of_nonneg h.nonneg, ofInt_of_nonneg hstop, hat, hdots]
  simp

theorem notMem_ofNat {b : UInt8} (h : isDigit b = false) (n : Nat) : b ∉ ofNat n := by
  intro hb
  rw [isDigit_of_mem_ofNat hb] at h
  cases h

/-- The bytes of a span are digits and dots. -/
theorem mem_numbers {m n : Nat} {b : UInt8} (h : b ∈ ofNat m ++ 46 :: 46 :: ofNat n) :
    isDigit b = true ∨ b = 46 := by
  rcases List.mem_append.mp h with hm | h
  · exact Or.inl (isDigit_of_mem_ofNat hm)
  · rcases List.mem_cons.mp h with hdot | h
    · exact Or.inr hdot
    · rcases List.mem_cons.mp h with hdot | hn
      · exact Or.inr hdot
      · exact Or.inl (isDigit_of_mem_ofNat hn)

theorem basic_of_isDigit {b : UInt8} (h : isDigit b = true ∨ b = 46) :
    b < 0x80 ∧ SyntaxPlayground.isBlank b.toNat = false := by
  rcases h with hdigit | rfl
  · rw [isDigit_iff] at hdigit
    constructor
    · rw [UInt8.lt_iff_toNat_lt]
      have h80 : (0x80 : UInt8).toNat = 128 := rfl
      omega
    · generalize b.toNat = n at hdigit
      unfold SyntaxPlayground.isBlank
      simp
      omega
  · decide

/-- What stands after the `@` of a span reads back. -/
theorem ofSuffix?_numbers (h : s.InRange) :
    ofSuffix? (ofNat s.start.toNat ++ 46 :: 46 :: ofNat s.stop.toNat) = some s := by
  have hstop : 0 ≤ s.stop := Int.le_trans h.nonneg h.ordered
  have htrim : trim (ofNat s.start.toNat ++ 46 :: 46 :: ofNat s.stop.toNat) =
      ofNat s.start.toNat ++ 46 :: 46 :: ofNat s.stop.toNat := by
    apply trim_eq_self
    intro b hb
    exact basic_of_isDigit (mem_numbers hb)
  have hcut := cut?_dots (notMem_ofNat (b := 46) (by decide) s.start.toNat) (ofNat s.stop.toNat)
  have hdots : utf8 ".." = [46, 46] := rfl
  have hstart := readDigits?_ofNat (n := s.start.toNat) (by
    have hordered := h.ordered
    have hfits := h.fits
    omega)
  have hend := readDigits?_ofNat (n := s.stop.toNat) (by
    have hfits := h.fits
    omega)
  have horder : s.start.toNat ≤ s.stop.toNat := Int.toNat_le_toNat h.ordered
  unfold ofSuffix?
  rw [htrim, hdots, hcut]
  simp only [hstart, hend, horder, if_true, Int.toNat_of_nonneg h.nonneg,
    Int.toNat_of_nonneg hstop]

end Span


/-! ## Lines read back -/

namespace Record

open Text

variable {r : Record}

theorem isBlankByte_space : IsBlankByte 32 := by
  unfold IsBlankByte
  decide

theorem isBlankByte_return : IsBlankByte 13 := by
  unfold IsBlankByte
  decide

theorem indent_eq (n : Nat) : (utf8 "  ").times n = List.replicate (2 * n) 32 := by
  have hspaces : utf8 "  " = [32, 32] := rfl
  rw [hspaces]
  unfold times
  induction n with
  | zero => rfl
  | succ n ih =>
    rw [List.replicate_succ, List.flatten_cons, ih, Nat.mul_succ, List.replicate_succ,
      List.replicate_succ]
    rfl

theorem label_of_none (h : r.span = none) : r.label = r.kind := by
  unfold label
  rw [h]

theorem label_of_some (h : r.IsWritable) {s : Span} (hs : r.span = some s) :
    r.label =
      (r.kind ++ [32]) ++ 64 :: (ofNat s.start.toNat ++ 46 :: 46 :: ofNat s.stop.toNat) := by
  have hspace : utf8 " " = [32] := rfl
  have htext := Span.text_eq (h.span s hs)
  unfold label
  rw [hs]
  simp only [htext, hspace]

/-- A label begins with its kind, so not with a space. -/
theorem exists_cons_label (h : r.IsWritable) : ∃ b u, r.label = b :: u ∧ b ≠ 32 := by
  rcases r with ⟨kind, level, span⟩
  rcases kind with _ | ⟨b, u⟩
  · exact absurd rfl h.kind.nonempty
  · have hb : b ≠ 32 := by
      rintro rfl
      exact ne_cons_blank h.kind.trimmed isBlankByte_space u rfl
    cases span with
    | none => exact ⟨b, u, rfl, hb⟩
    | some s => exact ⟨b, u ++ utf8 " " ++ s.text, rfl, hb⟩

/-- A label ends with its kind or with a digit, so not with a carriage return. -/
theorem getLast?_label (h : r.IsWritable) : r.label.getLast? ≠ some 13 := by
  intro hlast
  cases hspan : r.span with
  | none =>
    rw [label_of_none hspan] at hlast
    rcases List.getLast?_eq_some_iff.mp hlast with ⟨u, hu⟩
    exact ne_append_blank h.kind.trimmed isBlankByte_return u hu
  | some s =>
    cases hdigit : (ofNat s.stop.toNat).getLast? with
    | none => exact ofNat_ne_nil _ (List.getLast?_eq_none_iff.mp hdigit)
    | some d =>
      rw [label_of_some h hspan] at hlast
      -- the last byte is that of the second number
      have hd : d = 13 := by simpa [List.getLast?_append, List.getLast?_cons, hdigit] using hlast
      have hisDigit := isDigit_of_mem_ofNat (List.mem_of_getLast? hdigit)
      rw [hd] at hisDigit
      revert hisDigit
      decide

theorem dropReturns_line (h : r.IsWritable) : r.line.dropReturns = r.line := by
  apply dropReturns_eq_self
  unfold line
  rcases exists_cons_label h with ⟨b, u, hlabel, _⟩
  have hlast := getLast?_label h
  rw [List.getLast?_append]
  cases hd : r.label.getLast? with
  | none =>
    rw [List.getLast?_eq_none_iff, hlabel] at hd
    cases hd
  | some d =>
    rw [hd] at hlast
    exact hlast

/-- The spaces in front of a line are its indentation. -/
theorem takeWhile_indented (indent : Nat) {body : Text} (hbody : body.head? ≠ some 32) :
    ((List.replicate indent 32 ++ body).takeWhile (· = 32)).length = indent ∧
      (List.replicate indent 32 ++ body).dropWhile (· = 32) = body := by
  have hspaces : ∀ c ∈ List.replicate indent (32 : UInt8), decide (c = 32) = true := by
    intro c hc
    rw [List.eq_of_mem_replicate hc]
    rfl
  rw [List.takeWhile_append_of_pos hspaces, List.dropWhile_append_of_pos hspaces]
  cases body with
  | nil => simp
  | cons b u =>
    have hb : b ≠ 32 := fun heq => hbody (congrArg some heq)
    constructor
    · simp [hb]
    · simp [hb]

/-- The indentation of a line is its level. -/
theorem takeWhile_line (h : r.IsWritable) :
    (r.line.takeWhile (· = 32)).length = 2 * r.level ∧ r.line.dropWhile (· = 32) = r.label := by
  rcases exists_cons_label h with ⟨b, u, hlabel, hb⟩
  unfold line
  rw [indent_eq]
  apply takeWhile_indented
  rw [hlabel, List.head?_cons]
  exact fun heq => hb (Option.some_inj.mp heq)

/-- A record that can be written reads back from its line. -/
theorem ofLine?_line (h : r.IsWritable) : ofLine? r.line = some r := by
  rcases takeWhile_line h with ⟨hlevel, hbody⟩
  have hhalf : 2 * r.level / 2 = r.level := Nat.mul_div_cancel_left r.level Nat.two_pos
  have hnonempty : r.kind.isEmpty = false := List.isEmpty_eq_false_iff.mpr h.kind.nonempty
  unfold ofLine?
  simp only [dropReturns_line h, hlevel, hbody, hhalf]
  cases hspan : r.span with
  | none =>
    rw [label_of_none hspan, cutByte?_of_notMem h.kind.noAt]
    simp only [h.kind.trimmed, hnonempty, Bool.false_eq_true, if_false, ← hspan]
  | some s =>
    -- the first at sign is that of the span
    have hnoAt : 64 ∉ r.kind ++ [32] := by
      rw [List.mem_append, List.mem_singleton, not_or]
      exact ⟨h.kind.noAt, by decide⟩
    have htrim : (r.kind ++ [32]).trim = r.kind := by
      rw [trim_append_blank isBlankByte_space]
      exact h.kind.trimmed
    have hsuffix := Span.ofSuffix?_numbers (h.span s hspan)
    rw [label_of_some h hspan, cutByte?_append hnoAt]
    simp only [htrim, hnonempty, Bool.false_eq_true, if_false, hsuffix, Option.map_some]
    rw [← hspan]

/-- The line of a record is one line. -/
theorem newline_notMem_line (h : r.IsWritable) : 10 ∉ r.line := by
  unfold line
  rw [indent_eq, List.mem_append, not_or]
  constructor
  · intro hmem
    have hspace := List.eq_of_mem_replicate hmem
    revert hspace
    decide
  · cases hspan : r.span with
    | none =>
      rw [label_of_none hspan]
      exact h.kind.noNewline
    | some s =>
      have hnumbers : 10 ∉ ofNat s.start.toNat ++ 46 :: 46 :: ofNat s.stop.toNat := by
        intro hmem
        rcases Span.mem_numbers hmem with hdigit | hdot
        · revert hdigit
          decide
        · revert hdot
          decide
      rw [label_of_some h hspan, List.mem_append, List.mem_append, List.mem_singleton, List.mem_cons]
      simp only [not_or]
      exact ⟨⟨h.kind.noNewline, by decide⟩, by decide, hnumbers⟩

end Record

/-! ## What is read can be written -/

theorem Text.isKind_trim {t : Text} (hne : ¬ t.trim.isEmpty = true) (hat : 64 ∉ t)
    (hnewline : 10 ∉ t) : t.trim.IsKind := by
  refine ⟨?_, trim_trim t, ?_, ?_⟩
  · intro hnil
    rw [hnil] at hne
    exact hne rfl
  · intro hmem
    exact hat (mem_of_mem_trim hmem)
  · intro hmem
    exact hnewline (mem_of_mem_trim hmem)

theorem Text.le_of_readDigits? {t : Text} {n : Nat} (h : t.readDigits? = some n) :
    (n : Int) ≤ maxInt64 := by
  unfold readDigits? at h
  split at h
  · rename_i hfits
    cases h
    rw [Bool.and_eq_true, decide_eq_true_eq] at hfits
    exact hfits.2
  · cases h

/-- A span that was read is in range. -/
theorem Span.inRange_of_ofSuffix? {t : Text} {s : Span} (h : Span.ofSuffix? t = some s) :
    s.InRange := by
  unfold Span.ofSuffix? at h
  split at h
  · cases h
  · split at h
    · rename_i start stop _ hstop
      split at h
      · rename_i horder
        cases h
        exact ⟨Int.natCast_nonneg start, Int.ofNat_le.mpr horder, Text.le_of_readDigits? hstop⟩
      · cases h
    · cases h

/-- A record that was read from a line can be written. -/
theorem Record.isWritable_of_ofLine? {t : Text} {r : Record} (hline : 10 ∉ t)
    (h : Record.ofLine? t = some r) : r.IsWritable := by
  have hbody : 10 ∉ t.dropReturns.dropWhile (· = 32) := by
    intro hmem
    exact hline (Text.mem_of_mem_dropReturns ((List.dropWhile_sublist _).subset hmem))
  unfold Record.ofLine? at h
  simp only at h
  split at h
  · rename_i hcut
    split at h
    · cases h
    · rename_i hne
      cases h
      refine ⟨Text.isKind_trim hne (Text.notMem_of_cutByte?_none hcut) hbody, ?_⟩
      intro s hs
      cases hs
  · rename_i head suffix hcut
    rcases Text.eq_of_cutByte?_some hcut with ⟨hat, hsplit⟩
    have hnewline : 10 ∉ head := by
      intro hmem
      rw [hsplit] at hbody
      exact hbody (List.mem_append_left _ hmem)
    split at h
    · cases h
    · rename_i hne
      rcases Option.map_eq_some_iff.mp h with ⟨s, hspan, rfl⟩
      refine ⟨Text.isKind_trim hne hat hnewline, ?_⟩
      intro s' hs'
      cases hs'
      exact Span.inRange_of_ofSuffix? hspan

end SyntaxPlayground
