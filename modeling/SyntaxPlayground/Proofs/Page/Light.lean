import SyntaxPlayground.Proofs.Page.Interaction

/-!
# Lit lists

A list is highlighted by a name in its class list. This module reads the lights off the content of the
tree pane: which lists carry the name (`withClass_highlight`), which list belongs to a label
(`isLabelOf_iff`), and that a tree looks the same whenever the same ones of its own lists are lit
(`mounted_congr`).
-/

namespace SyntaxPlayground

namespace Tree

open Builder Markup Document

variable {lit lit' : Nat → Bool}

/-! ## Which lists are lit -/

theorem hasClass_highlight_list (on : Bool) (number : Nat) (s : Option Span) :
    (mountedAttributes on number s).hasClass Vocabulary.highlight = on := by
  have hclass : (mountedAttributes on number s).classText = listClass on := rfl
  unfold Attributes.hasClass Attributes.classNames
  rw [hclass]
  cases on <;> decide +kernel

theorem hasClass_highlight_mountedLabel (next : Nat) (t : Tree) :
    (t.mountedLabel next).attrs.hasClass Vocabulary.highlight = false := by
  have hclass : (t.mountedLabel next).attrs.classText = Vocabulary.label := rfl
  unfold Attributes.hasClass Attributes.classNames
  rw [hclass]
  decide +kernel

theorem filter_highlight (lit : Nat → Bool) (next : Nat) (ts : List Tree) :
    ((rows lit next ts).filter (·.attrs.hasClass Vocabulary.highlight)).filterMap handleOf? =
      ((List.range' next ts.length 2).filter lit).map handleText := by
  -- a node has two rows, its list and its label, so the lists are numbered by twos
  induction ts generalizing next with
  | nil => rfl
  | cons t ts ih =>
    have hlist : (t.mounted lit next).attrs.hasClass Vocabulary.highlight = lit next := by
      rw [attrs_mounted]
      exact hasClass_highlight_list _ _ _
    rw [rows, List.length_cons, List.range'_succ, List.filter_cons, List.filter_cons, List.filter_cons,
      hasClass_highlight_mountedLabel, hlist]
    cases lit next with
    | false => exact ih (next + 2)
    | true =>
      rw [if_pos rfl, if_pos rfl, List.map_cons, List.filterMap_cons, handleOf?_mounted]
      exact congrArg _ (ih (next + 2))

/-! ## What the lights change -/

/-- The lists of `count` nodes from `next` on are lit alike. -/
def LitAlike (lit lit' : Nat → Bool) (next count : Nat) : Prop :=
  ∀ k < count, lit (next + 2 * k) = lit' (next + 2 * k)

theorem LitAlike.shift {next m n : Nat} (h : LitAlike lit lit' next (m + n)) :
    LitAlike lit lit' (next + 2 * m) n := by
  intro k hk
  have hshift := h (m + k) (by omega)
  rw [Nat.mul_add, ← Nat.add_assoc] at hshift
  exact hshift

theorem mountedAll_congr {cs : List Tree}
    (h : ∀ c ∈ cs, ∀ next, LitAlike lit lit' next c.count → c.mounted lit next = c.mounted lit' next)
    {next : Nat} (hlit : LitAlike lit lit' next (cs.flatMap nodes).length) :
    mountedAll lit next cs = mountedAll lit' next cs := by
  induction cs generalizing next with
  | nil => rfl
  | cons c cs ih =>
    rw [List.flatMap_cons, List.length_append, length_nodes] at hlit
    -- the numbers of the other children begin where those of the first one end
    have hhead := h c List.mem_cons_self next fun k hk => hlit k (by omega)
    have htail := ih (fun x hx => h x (List.mem_cons_of_mem c hx)) hlit.shift
    rw [mountedAll, hhead, htail]
    rfl

/-- Only the lights of a tree's own lists show. -/
theorem mounted_congr (t : Tree) {next : Nat} (hlit : LitAlike lit lit' next t.count) :
    t.mounted lit next = t.mounted lit' next := by
  induction t using induct generalizing next with
  | step kind l s cs ih =>
    rw [count_node, Nat.add_comm] at hlit
    have hself : lit next = lit' next := hlit 0 (by omega)
    have hchildren := mountedAll_congr (fun c hc next hlit => ih c hc hlit) hlit.shift
    rw [mounted, hself, hchildren]
    rfl

end Tree

namespace Document

open Markup Page SyntaxPlayground.Tree

variable {d : Document} {t : Tree} {lit : Nat → Bool} {next : Nat}

/-- The lit lists, in document order. -/
theorem withClass_highlight (h : d.content = [t.mounted lit next]) :
    d.withClass Vocabulary.highlight = ((List.range' next t.count 2).filter lit).map handleText := by
  unfold withClass
  rw [h, elementsAll_singleton, elements_mounted, filter_highlight, length_nodes]

/-! ## Lists and their labels -/

/-- The handles of the lists in the tree pane, in document order. -/
def lists (d : Document) : List Handle :=
  (handlesIn d.content).filter fun h => d.tag? (.element h) = some (utf8 "ul")

/-- An element is the label of another one: it is in the class of labels, right below that one. -/
def IsLabelOf (d : Document) (label list : Handle) : Prop :=
  d.hasClass (.element label) Vocabulary.label = true ∧ d.parent (.element label) = .element list
deriving Decidable

theorem filter_even (p : Handle → Bool) (next count : Nat)
    (hlist : ∀ k < count, p (handleText (next + 2 * k)) = true)
    (hlabel : ∀ k < count, p (handleText (next + 2 * k + 1)) = false) :
    ((List.range' next (2 * count)).map handleText).filter p =
      (List.range' next count 2).map handleText := by
  induction count generalizing next with
  | zero => rfl
  | succ count ih =>
    have hrest := ih (next + 2)
      (fun k hk => by
        have hshift := hlist (k + 1) (by omega)
        rwa [Nat.mul_succ, Nat.add_comm (2 * k), ← Nat.add_assoc] at hshift)
      (fun k hk => by
        have hshift := hlabel (k + 1) (by omega)
        rwa [Nat.mul_succ, Nat.add_comm (2 * k), ← Nat.add_assoc] at hshift)
    have hfirst : p (handleText next) = true := hlist 0 (by omega)
    have hsecond : p (handleText (next + 1)) = false := hlabel 0 (by omega)
    rw [Nat.mul_succ, List.range'_succ, List.range'_succ, List.range'_succ, List.map_cons, List.map_cons,
      List.filter_cons, List.filter_cons, hfirst, hsecond, hrest]
    rfl

/-- The lists of a tree are every other of its elements. -/
theorem lists_eq (h : d.content = [t.mounted lit next]) :
    d.lists = (List.range' next t.count 2).map handleText := by
  have hdifferent : some (utf8 "li") ≠ some (utf8 "ul") := by decide +kernel
  unfold lists
  rw [h, handlesIn_mounted]
  apply filter_even
  · intro k hk
    rw [← length_nodes] at hk
    rw [tag?_list h (List.getElem?_eq_getElem hk), decide_eq_true rfl]
  · intro k hk
    rw [← length_nodes] at hk
    rw [tag?_label h (List.getElem?_eq_getElem hk), decide_eq_false hdifferent]

/-- The label of a list has the next number. -/
theorem isLabelOf_iff (h : d.content = [t.mounted lit next]) {label list : Handle}
    (hlabel : label ∈ handlesIn d.content) :
    d.IsLabelOf label list ↔
      ∃ k < t.count, list = handleText (next + 2 * k) ∧ label = handleText (next + 2 * k + 1) := by
  rw [h] at hlabel
  constructor
  · rintro ⟨hclass, hparent⟩
    rcases Page.exists_of_mem_handlesIn hlabel with ⟨k, n, hk, rfl | rfl⟩
    · -- lists are in another class
      unfold hasClass at hclass
      rw [attrs?_list h hk] at hclass
      exact absurd ((hasClass_label_list _ _ _).symm.trans hclass) Bool.false_ne_true
    · rw [parent_label h hk] at hparent
      exact ⟨k, lt_count_of_getElem? hk, (Target.element.inj hparent).symm, rfl⟩
  · rintro ⟨k, hk, rfl, rfl⟩
    rw [← length_nodes] at hk
    have hnode := List.getElem?_eq_getElem hk
    refine ⟨?_, parent_label h hnode⟩
    unfold hasClass attrs?
    simp only [element?_label h hnode, Option.map_some]
    exact hasClass_label_mountedLabel _ _

/-- Every list has one label. -/
theorem exists_isLabelOf (h : d.content = [t.mounted lit next]) {list : Handle} (hlist : list ∈ d.lists) :
    ∃ label ∈ handlesIn d.content, d.IsLabelOf label list ∧
      ∀ other ∈ handlesIn d.content, d.IsLabelOf other list → other = label := by
  rw [lists_eq h, List.mem_map] at hlist
  rcases hlist with ⟨i, hi, rfl⟩
  rcases List.mem_range'.mp hi with ⟨k, hk, rfl⟩
  have hmem : handleText (next + 2 * k + 1) ∈ handlesIn d.content := by
    rw [h]
    exact mem_handlesIn_mounted.mpr ⟨_, by omega, by omega, rfl⟩
  refine ⟨_, hmem, (isLabelOf_iff h hmem).mpr ⟨k, hk, rfl, rfl⟩, ?_⟩
  intro other hother hlabel
  rcases (isLabelOf_iff h hother).mp hlabel with ⟨j, _, hlist, rfl⟩
  have hnumber := handleText_injective hlist
  rw [hnumber]

/-- If a list is lit just when a predicate holds of its label, the lit lists are those with such a
label. -/
theorem map_filter_lit (h : d.content = [t.mounted lit next]) (lit' : Nat → Bool) {p : Handle → Bool}
    (hlit : ∀ k < t.count, lit' (next + 2 * k) = p (handleText (next + 2 * k + 1))) :
    ((List.range' next t.count 2).filter lit').map handleText =
      d.lists.filter fun list => ∃ label ∈ handlesIn d.content, d.IsLabelOf label list ∧ p label := by
  rw [lists_eq h, List.filter_map]
  apply congrArg (List.map handleText)
  apply List.filter_congr
  intro i hi
  rcases List.mem_range'.mp hi with ⟨k, hk, rfl⟩
  have hmem : handleText (next + 2 * k + 1) ∈ handlesIn d.content := by
    rw [h]
    exact mem_handlesIn_mounted.mpr ⟨_, by omega, by omega, rfl⟩
  rw [hlit k hk, Bool.eq_iff_iff, Function.comp_apply, decide_eq_true_iff]
  constructor
  · intro hp
    exact ⟨_, hmem, (isLabelOf_iff h hmem).mpr ⟨k, hk, rfl, rfl⟩, hp⟩
  · -- a list has no other label than the one with the next number
    rintro ⟨label, hlabel, hof, hp⟩
    rcases (isLabelOf_iff h hlabel).mp hof with ⟨j, _, hlist, rfl⟩
    have hnumber := handleText_injective hlist
    rw [hnumber]
    exact hp

end Document

end SyntaxPlayground
