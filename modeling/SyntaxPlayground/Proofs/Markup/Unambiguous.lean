import SyntaxPlayground.Proofs.Dump.Assembly
import SyntaxPlayground.Proofs.Markup.ReadBack
import SyntaxPlayground.Proofs.Text.Cutting
import SyntaxPlayground.Proofs.Text.Decimal

/-!
# Markup determines the tree

Trees that are written alike have the same shape, the same kinds and the same spans (`renderTree_eq_iff`);
only levels are not written. The text of a tree can even be told from whatever follows it
(`isDetermined`): a value ends at the first quote, a label at the first `<`, because escaping leaves
neither of them, and the children of a node end where a closing tag follows instead of an opening one. A label
alone does not tell a span from a kind that looks like one, but the attributes of the list, which stand before
the label, do.
-/

namespace SyntaxPlayground

/-! ## Texts that end where they end -/

namespace Text

theorem escaped_injective {s t : Text} (h : s.escaped = t.escaped) : s = t := by
  have hdecoded := congrArg (decodeReferences false) h
  rwa [decodeReferences_escaped, decodeReferences_escaped] at hdecoded

/-- Escaped text ends at the first quote or `<`. -/
theorem escaped_append_inj {b : UInt8} (hb : b = 34 ∨ b = 60) {s t x y : Text}
    (h : s.escaped ++ b :: x = t.escaped ++ b :: y) : s = t ∧ x = y := by
  have hfree : ∀ u : Text, b ∉ u.escaped := by
    intro u hu
    have hclean := (mem_escaped_clean hu).2
    rcases hb with rfl | rfl
    · exact hclean.1 rfl
    · exact hclean.2 rfl
  have hcut := congrArg (cutByte? b) h
  rw [cutByte?_append (hfree s), cutByte?_append (hfree t), Option.some_inj, Prod.mk.injEq] at hcut
  exact ⟨escaped_injective hcut.1, hcut.2⟩

/-- What is written for an integer begins with a digit or a minus sign. -/
theorem head?_ofInt (n : Int) : ∃ b, (ofInt n).head? = some b ∧ (isDigit b = true ∨ b = 45) := by
  cases n with
  | ofNat m =>
    obtain ⟨b, t, hdigits⟩ := List.exists_cons_of_ne_nil (ofNat_ne_nil m)
    refine ⟨b, congrArg List.head? hdigits, Or.inl ?_⟩
    apply isDigit_of_mem_ofNat (n := m)
    rw [hdigits]
    exact List.mem_cons_self
  | negSucc m => exact ⟨45, rfl, Or.inr rfl⟩

/-- No two integers are written alike. -/
theorem ofInt_injective {m n : Int} (h : ofInt m = ofInt n) : m = n := by
  have hsign : ∀ k l : Nat, ofNat k ≠ 45 :: ofNat (l + 1) := by
    intro k l heq
    have hdigit : isDigit 45 = true := by
      apply isDigit_of_mem_ofNat (n := k)
      rw [heq]
      exact List.mem_cons_self
    revert hdigit
    decide
  cases m with
  | ofNat m =>
    cases n with
    | ofNat n => exact congrArg Int.ofNat (ofNat_injective h)
    | negSucc n => exact absurd h (hsign m n)
  | negSucc m =>
    cases n with
    | ofNat n => exact absurd h.symm (hsign n m)
    | negSucc n =>
      rw [ofInt, ofInt, List.cons.injEq] at h
      exact congrArg Int.negSucc (Nat.succ.inj (ofNat_injective h.2))

end Text

/-- The value of an attribute ends at its quote. -/
theorem Attribute.write_append_inj {name v w x y : Text}
    (h : (Attribute.mk name v).write ++ x = (Attribute.mk name w).write ++ y) : v = w ∧ x = y := by
  have hquote : utf8 "\"" = [34] := rfl
  unfold Attribute.write at h
  rw [hquote] at h
  simp only [List.append_assoc, List.singleton_append, List.append_cancel_left_eq] at h
  exact Text.escaped_append_inj (Or.inl rfl) h

namespace Tree

open Builder Markup

/-! ## One node -/

/-- No number is written like a missing span. -/
theorem ofInt_ne_noSpan (n : Int) : Text.ofInt n ≠ Vocabulary.noSpan := by
  intro h
  obtain ⟨b, hhead, hb⟩ := Text.head?_ofInt n
  have hletter : Vocabulary.noSpan.head? = some 117 := by decide
  rw [h, hletter] at hhead
  cases hhead
  revert hb
  decide

/-- The values of the span attributes determine the span. -/
theorem spanValues_injective {s s' : Option Span} (h : spanValues s = spanValues s') : s = s' := by
  cases s with
  | none =>
    cases s' with
    | none => rfl
    | some s' => exact absurd (congrArg Prod.fst h).symm (ofInt_ne_noSpan s'.start)
  | some s =>
    cases s' with
    | none => exact absurd (congrArg Prod.fst h) (ofInt_ne_noSpan s.start)
    | some s' =>
      have hstart := Text.ofInt_injective (congrArg Prod.fst h)
      have hstop := Text.ofInt_injective (congrArg Prod.snd h)
      obtain ⟨start, stop⟩ := s
      obtain ⟨start', stop'⟩ := s'
      cases hstart
      cases hstop
      rfl

/-- The opening tag of a node determines its span. -/
theorem openingText_append_inj {s s' : Option Span} {x y : Text}
    (h : openingText listTag (listAttributes s) ++ x = openingText listTag (listAttributes s') ++ y) :
    s = s' ∧ x = y := by
  unfold openingText listAttributes at h
  simp only [List.flatMap_cons, List.flatMap_nil, List.append_assoc, List.append_cancel_left_eq,
    List.nil_append] at h
  obtain ⟨hstart, h⟩ := Attribute.write_append_inj h
  obtain ⟨hstop, h⟩ := Attribute.write_append_inj h
  exact ⟨spanValues_injective (Prod.ext hstart hstop), List.append_cancel_left h⟩

/-- A label ends at its closing tag. -/
theorem labelText_append_inj {t u : Tree} {x y : Text} (h : t.labelText ++ x = u.labelText ++ y) :
    t.label = u.label ∧ x = y := by
  have hclosing : closingText itemTag = 60 :: utf8 "/li>" := by decide
  unfold labelText at h
  simp only [List.append_assoc, List.append_cancel_left_eq] at h
  rw [hclosing] at h
  obtain ⟨hlabel, hrest⟩ := Text.escaped_append_inj (Or.inr rfl) h
  exact ⟨hlabel, List.append_cancel_left hrest⟩

/-- Beside the span the label determines the kind. -/
theorem kind_eq_of_label_eq {t u : Tree} (hspan : t.span = u.span) (hlabel : t.label = u.label) :
    t.kind = u.kind := by
  unfold label at hlabel
  rw [hspan] at hlabel
  cases hu : u.span with
  | none =>
    rw [hu] at hlabel
    exact hlabel
  | some s =>
    rw [hu] at hlabel
    exact List.append_cancel_right (List.append_cancel_right hlabel)

/-! ## Whole trees -/

/-- A tree begins with an opening tag, which no closing tag looks like. -/
theorem render_append_ne_closingText (t : Tree) (tag x y : Text) :
    t.render ++ x ≠ closingText tag ++ y := by
  obtain ⟨k, l, s, cs⟩ := t
  intro h
  -- the tags differ in their second bytes
  have hsecond := congrArg (fun z : Text => z[1]?) h
  rw [render_node] at hsecond
  have hopening : utf8 "<" = [60] := rfl
  have hlist : listTag = [117, 108] := rfl
  have hclosing : utf8 "</" = [60, 47] := rfl
  simp [openingText, closingText, hopening, hlist, hclosing] at hsecond

/-- What is written for the tree determines it, but for its levels, whatever follows, and where its text
ends. -/
def IsDetermined (t : Tree) : Prop :=
  ∀ (u : Tree) (x y : Text), t.render ++ x = u.render ++ y →
    (∀ depth, t.relevel depth = u.relevel depth) ∧ x = y

/-- The children of a node are determined together, and end where the closing tag follows. -/
theorem flatMap_render_append_inj {tag : Text} {cs : List Tree} (h : ∀ c ∈ cs, IsDetermined c) :
    ∀ (ds : List Tree) (x y : Text),
      cs.flatMap render ++ (closingText tag ++ x) = ds.flatMap render ++ (closingText tag ++ y) →
      (∀ depth, relevelAll depth cs = relevelAll depth ds) ∧ x = y := by
  induction cs with
  | nil =>
    intro ds x y heq
    -- where one list ends, the other ends too: no tree begins with a closing tag
    cases ds with
    | nil => exact ⟨fun _ => rfl, List.append_cancel_left heq⟩
    | cons d ds =>
      rw [List.flatMap_cons, List.append_assoc] at heq
      exact absurd heq.symm (render_append_ne_closingText d tag _ _)
  | cons c cs ih =>
    intro ds x y heq
    rw [List.flatMap_cons, List.append_assoc] at heq
    cases ds with
    | nil => exact absurd heq (render_append_ne_closingText c tag _ _)
    | cons d ds =>
      rw [List.flatMap_cons, List.append_assoc] at heq
      obtain ⟨hfirst, heq⟩ := h c List.mem_cons_self d _ _ heq
      obtain ⟨hothers, hrest⟩ := ih (fun e he => h e (List.mem_cons_of_mem c he)) ds x y heq
      refine ⟨fun depth => ?_, hrest⟩
      rw [relevelAll, relevelAll, hfirst, hothers]

/-- Every tree is determined by its text. -/
theorem isDetermined (t : Tree) : IsDetermined t := by
  induction t using induct with
  | step k l s cs ih =>
    intro u x y h
    obtain ⟨k', l', s', ds⟩ := u
    rw [render_node, render_node] at h
    simp only [List.append_assoc] at h
    -- the opening tag gives the span, and only then does the label give the kind
    obtain ⟨hspan, h⟩ := openingText_append_inj h
    obtain ⟨hlabel, h⟩ := labelText_append_inj h
    have hkind : k = k' := kind_eq_of_label_eq (t := node k l s cs) (u := node k' l' s' ds) hspan hlabel
    obtain ⟨hchildren, hrest⟩ := flatMap_render_append_inj ih ds x y h
    refine ⟨fun depth => ?_, hrest⟩
    rw [relevel, relevel, hspan, hkind, hchildren]

theorem flatMap_render_relevelAll {cs : List Tree}
    (h : ∀ c ∈ cs, ∀ depth, (c.relevel depth).render = c.render) (depth : Nat) :
    (relevelAll depth cs).flatMap render = cs.flatMap render := by
  induction cs with
  | nil => rfl
  | cons c cs ih =>
    have hothers := ih fun d hd => h d (List.mem_cons_of_mem c hd)
    rw [relevelAll, List.flatMap_cons, List.flatMap_cons, h c List.mem_cons_self, hothers]

/-- Levels are not written. -/
theorem render_relevel (t : Tree) : ∀ depth, (t.relevel depth).render = t.render := by
  induction t using induct with
  | step k l s cs ih =>
    intro depth
    rw [relevel, render_node, render_node, flatMap_render_relevelAll ih]
    rfl

/-- Trees are written alike exactly if they differ in levels alone. -/
theorem render_eq_iff {t u : Tree} : t.render = u.render ↔ t.relevel 0 = u.relevel 0 := by
  constructor
  · intro h
    exact (isDetermined t u [] [] (congrArg (· ++ []) h)).1 0
  · intro h
    rw [← render_relevel t 0, h, render_relevel]

theorem render_ne_nil (t : Tree) : t.render ≠ [] := by
  obtain ⟨k, l, s, cs⟩ := t
  rw [render_node]
  exact List.append_ne_nil_of_left_ne_nil (List.append_ne_nil_of_left_ne_nil (List.cons_ne_nil 60 _) _) _

/-- Two trees, of which either may be missing, are written alike exactly if they have the same shape, kinds and
spans. So a span does not look like a part of the kind, though the labels are the same, and kinds that differ
are never written alike, whatever they contain. -/
theorem renderTree_eq_iff :
    (∀ t u : Option Tree, renderTree t = renderTree u ↔ t.map (relevel 0) = u.map (relevel 0)) ∧
    (∀ (k : Text) (s : Span) (l l' : Nat) (cs cs' : List Tree),
      (node (k ++ utf8 " " ++ s.text) l none cs).label = (node k l' (some s) cs').label ∧
      (node (k ++ utf8 " " ++ s.text) l none cs).render ≠ (node k l' (some s) cs').render) ∧
    ∀ (k k' : Text) (l l' : Nat) (s s' : Option Span) (cs cs' : List Tree), k ≠ k' →
      (node k l s cs).render ≠ (node k' l' s' cs').render := by
  refine ⟨?_, ?_, ?_⟩
  · intro t u
    cases t with
    | none =>
      cases u with
      | none => exact ⟨fun _ => rfl, fun _ => rfl⟩
      | some u => exact ⟨fun h => absurd h.symm (render_ne_nil u), fun h => by cases h⟩
    | some t =>
      cases u with
      | none => exact ⟨fun h => absurd h (render_ne_nil t), fun h => by cases h⟩
      | some u =>
        rw [Option.map_some, Option.map_some, Option.some_inj]
        exact render_eq_iff
  · intro k s l l' cs cs'
    refine ⟨rfl, fun h => ?_⟩
    have hspan := congrArg span (render_eq_iff.mp h)
    cases hspan
  · intro k k' l l' s s' cs cs' hkinds h
    exact hkinds (congrArg kind (render_eq_iff.mp h))

/-- A kind that ends like a span, and kinds that hold a tag and the references it is escaped with. -/
theorem renderTree_eq_iff_lookalikes :
    (node (utf8 "A @0..3") 0 none []).render ≠ (node (utf8 "A") 0 (some ⟨0, 3⟩) []).render ∧
      (node (utf8 "<b>") 0 none []).render ≠ (node (utf8 "&lt;b&gt;") 0 none []).render :=
  ⟨(renderTree_eq_iff.2.1 (utf8 "A") ⟨0, 3⟩ 0 0 [] []).2,
    renderTree_eq_iff.2.2 _ _ 0 0 none none [] [] (by decide)⟩

end Tree

end SyntaxPlayground
