import Mathlib.Data.List.DropRight
import SyntaxPlayground.Text.Basic

/-!
# Cutting a text

What cutting at a byte, splitting at every such byte, and dropping carriage returns do. Each comes both
ways: a text put together from parts without the separator is cut into these parts, and the parts that
cutting gives hold no separator.
-/

namespace SyntaxPlayground

namespace Text

theorem cutByte?_of_notMem {b : UInt8} {t : Text} (h : b ∉ t) : cutByte? b t = none := by
  induction t with
  | nil => rfl
  | cons c t ih =>
    rw [List.mem_cons, not_or] at h
    rw [cutByte?, if_neg (Ne.symm h.1), ih h.2]
    rfl

theorem cutByte?_append {b : UInt8} {t : Text} (h : b ∉ t) (u : Text) :
    cutByte? b (t ++ b :: u) = some (t, u) := by
  induction t with
  | nil => rw [List.nil_append, cutByte?, if_pos rfl]
  | cons c t ih =>
    rw [List.mem_cons, not_or] at h
    rw [List.cons_append, cutByte?, if_neg (Ne.symm h.1), ih h.2]
    rfl

theorem notMem_of_cutByte?_none {b : UInt8} {t : Text} (h : cutByte? b t = none) : b ∉ t := by
  induction t with
  | nil => exact List.not_mem_nil
  | cons c t ih =>
    rw [cutByte?] at h
    by_cases hc : c = b
    · rw [if_pos hc] at h
      cases h
    · rw [if_neg hc, Option.map_eq_none_iff] at h
      rw [List.mem_cons, not_or]
      exact ⟨Ne.symm hc, ih h⟩

theorem eq_of_cutByte?_some {b : UInt8} {t l r : Text} (h : cutByte? b t = some (l, r)) :
    b ∉ l ∧ t = l ++ b :: r := by
  induction t generalizing l with
  | nil => cases h
  | cons c t ih =>
    rw [cutByte?] at h
    by_cases hc : c = b
    · rw [if_pos hc] at h
      cases h
      exact ⟨List.not_mem_nil, by rw [hc]; rfl⟩
    · rw [if_neg hc] at h
      rcases Option.map_eq_some_iff.mp h with ⟨⟨l', r'⟩, hcut, heq⟩
      cases heq
      rcases ih hcut with ⟨hl, ht⟩
      refine ⟨?_, by rw [ht]; rfl⟩
      rw [List.mem_cons, not_or]
      exact ⟨Ne.symm hc, hl⟩

theorem splitByte_of_notMem {b : UInt8} {t : Text} (h : b ∉ t) : splitByte b t = [t] := by
  induction t with
  | nil => rfl
  | cons c t ih =>
    rw [List.mem_cons, not_or] at h
    rw [splitByte, if_neg (Ne.symm h.1), ih h.2]

theorem splitByte_append {b : UInt8} {t : Text} (h : b ∉ t) (u : Text) :
    splitByte b (t ++ b :: u) = t :: splitByte b u := by
  induction t with
  | nil => rw [List.nil_append, splitByte, if_pos rfl]
  | cons c t ih =>
    rw [List.mem_cons, not_or] at h
    rw [List.cons_append, splitByte, if_neg (Ne.symm h.1), ih h.2]

theorem notMem_of_mem_splitByte {b : UInt8} {t l : Text} (h : l ∈ splitByte b t) : b ∉ l := by
  induction t generalizing l with
  | nil =>
    rw [splitByte, List.mem_singleton] at h
    rw [h]
    exact List.not_mem_nil
  | cons c t ih =>
    rw [splitByte] at h
    by_cases hc : c = b
    · rw [if_pos hc] at h
      rcases List.mem_cons.mp h with rfl | h
      · exact List.not_mem_nil
      · exact ih h
    · rw [if_neg hc] at h
      cases hsplit : splitByte b t with
      | nil =>
        rw [hsplit, List.mem_singleton] at h
        rw [h, List.mem_singleton]
        exact Ne.symm hc
      | cons l' ls =>
        rw [hsplit] at h
        rcases List.mem_cons.mp h with rfl | h
        · rw [List.mem_cons, not_or]
          refine ⟨Ne.symm hc, ih ?_⟩
          rw [hsplit]
          exact List.mem_cons_self
        · apply ih
          rw [hsplit]
          exact List.mem_cons_of_mem l' h

theorem lines_ne_nil (t : Text) : t.lines ≠ [] := by
  unfold lines
  cases t with
  | nil => exact List.cons_ne_nil _ _
  | cons c t =>
    rw [splitByte]
    split
    · exact List.cons_ne_nil _ _
    · split
      · exact List.cons_ne_nil _ _
      · exact List.cons_ne_nil _ _

theorem lines_cons {c : UInt8} (hc : c ≠ 10) {t line : Text} {ls : List Text}
    (h : t.lines = line :: ls) : lines (c :: t) = (c :: line) :: ls := by
  unfold lines at h ⊢
  rw [splitByte, if_neg hc, h]

theorem lines_append_newline (t u : Text) : lines (t ++ 10 :: u) = t.lines ++ lines u := by
  induction t with
  | nil => rfl
  | cons c t ih =>
    by_cases hc : c = 10
    · subst hc
      exact congrArg ([] :: ·) ih
    · obtain ⟨line, ls, hlines⟩ := List.exists_cons_of_ne_nil (lines_ne_nil t)
      rw [hlines, List.cons_append] at ih
      rw [List.cons_append, lines_cons hc ih, lines_cons hc hlines, List.cons_append]

/-- A byte at the end of a text, unless it is a newline, belongs to the last line. -/
theorem exists_lines_append {b : UInt8} (hb : b ≠ 10) (t : Text) :
    ∃ init last, t.lines = init ++ [last] ∧ lines (t ++ [b]) = init ++ [last ++ [b]] := by
  induction t with
  | nil => exact ⟨[], [], rfl, lines_cons hb rfl⟩
  | cons c t ih =>
    obtain ⟨init, last, hlines, hmore⟩ := ih
    by_cases hc : c = 10
    · subst hc
      exact ⟨[] :: init, last, congrArg ([] :: ·) hlines, congrArg ([] :: ·) hmore⟩
    · cases init with
      | nil => exact ⟨[], c :: last, lines_cons hc hlines, lines_cons hc hmore⟩
      | cons line init => exact ⟨(c :: line) :: init, last, lines_cons hc hlines, lines_cons hc hmore⟩

/-- Lines that end with a newline each are split again, with nothing after the last. -/
theorem lines_flatMap {ls : List Text} (h : ∀ l ∈ ls, 10 ∉ l) :
    lines (ls.flatMap (· ++ [10])) = ls ++ [[]] := by
  induction ls with
  | nil => rfl
  | cons l ls ih =>
    have hl := h l List.mem_cons_self
    have hls := ih fun x hx => h x (List.mem_cons_of_mem l hx)
    unfold lines at hls ⊢
    rw [List.flatMap_cons, List.append_assoc, List.singleton_append, splitByte_append hl, hls]
    rfl

/-- A text without a dot is what stands before the first two dots after it. -/
theorem cut?_dots {t : Text} (h : 46 ∉ t) (u : Text) :
    cut? (t ++ 46 :: 46 :: u) [46, 46] = some (t, u) := by
  induction t with
  | nil => simp [cut?]
  | cons c t ih =>
    rw [List.mem_cons, not_or] at h
    have hprefix : List.isPrefixOf [46, 46] (c :: (t ++ 46 :: 46 :: u)) = false := by
      simp [List.isPrefixOf, h.1]
    rw [List.cons_append, cut?, hprefix, ih h.2]
    rfl

/-- What cutting at a separator gives stands around it. -/
theorem eq_of_cut?_some {t sep l r : Text} (h : cut? t sep = some (l, r)) : t = l ++ sep ++ r := by
  induction t generalizing l with
  | nil =>
    rw [cut?, Option.ite_none_right_eq_some, Option.some_inj] at h
    obtain ⟨hempty, hparts⟩ := h
    cases hparts
    rw [List.isEmpty_iff.mp hempty]
    rfl
  | cons c t ih =>
    rw [cut?] at h
    by_cases hsep : sep.isPrefixOf (c :: t) = true
    · rw [if_pos hsep] at h
      cases h
      obtain ⟨u, hu⟩ := List.isPrefixOf_iff_prefix.mp hsep
      rw [← hu, List.drop_left, List.nil_append]
    · rw [if_neg hsep] at h
      obtain ⟨⟨l', r'⟩, hcut, hparts⟩ := Option.map_eq_some_iff.mp h
      cases hparts
      rw [ih hcut]
      rfl

/-- What stands in front of the first other byte is one byte over and over. -/
theorem takeWhile_eq_replicate (b : UInt8) (t : Text) :
    t.takeWhile (· = b) = List.replicate (t.takeWhile (· = b)).length b := by
  apply List.eq_replicate_of_mem
  intro c hc
  have hsame := List.mem_takeWhile_imp hc
  exact of_decide_eq_true hsame

theorem head?_dropWhile_ne (b : UInt8) (t : Text) : (t.dropWhile (· = b)).head? ≠ some b := by
  intro hhead
  have hnot := List.head?_dropWhile_not (fun c : UInt8 => decide (c = b)) t
  rw [hhead] at hnot
  have hother : decide (b = b) = false := hnot
  rw [decide_eq_true rfl] at hother
  cases hother

theorem dropReturns_eq_self {t : Text} (h : t.getLast? ≠ some 13) : t.dropReturns = t := by
  unfold dropReturns dropTrailing
  rw [List.getLast?_eq_head?_reverse] at h
  cases hreverse : t.reverse with
  | nil => rw [List.dropWhile_nil, ← hreverse, List.reverse_reverse]
  | cons b u =>
    rw [hreverse, List.head?_cons] at h
    have hb : b ≠ 13 := fun heq => h (congrArg some heq)
    rw [List.dropWhile_cons, decide_eq_false hb, if_neg Bool.false_ne_true, ← hreverse,
      List.reverse_reverse]

theorem dropReturns_dropReturns (t : Text) : t.dropReturns.dropReturns = t.dropReturns := by
  unfold dropReturns dropTrailing
  rw [List.reverse_reverse, List.dropWhile_idempotent]

theorem dropReturns_append_return (t : Text) : dropReturns (t ++ [13]) = t.dropReturns := by
  unfold dropReturns dropTrailing
  rw [List.reverse_append, List.reverse_singleton, List.singleton_append,
    List.dropWhile_cons_of_pos (by decide)]

/-- What is dropped are the carriage returns at the end. -/
theorem dropReturns_eq_iff {t u : Text} :
    t.dropReturns = u ↔ (∃ n, t = u ++ List.replicate n 13) ∧ u.getLast? ≠ some 13 := by
  constructor
  · rintro rfl
    unfold dropReturns dropTrailing
    constructor
    · refine ⟨(t.reverse.takeWhile (· = 13)).length, ?_⟩
      rw [← List.reverse_replicate, ← takeWhile_eq_replicate, ← List.reverse_append,
        List.takeWhile_append_dropWhile, List.reverse_reverse]
    · rw [List.getLast?_reverse]
      exact head?_dropWhile_ne 13 t.reverse
  · rintro ⟨⟨n, rfl⟩, hlast⟩
    induction n with
    | zero => rw [List.replicate_zero, List.append_nil, dropReturns_eq_self hlast]
    | succ n ih => rw [List.replicate_succ', ← List.append_assoc, dropReturns_append_return, ih]

theorem mem_of_mem_dropReturns {t : Text} {b : UInt8} (h : b ∈ t.dropReturns) : b ∈ t := by
  unfold dropReturns dropTrailing at h
  rw [List.mem_reverse] at h
  exact List.mem_reverse.mp ((List.dropWhile_sublist _).subset h)

end Text

end SyntaxPlayground
