import SyntaxPlayground.Page.Document
import SyntaxPlayground.Proofs.Markup.ReadBack
import SyntaxPlayground.Proofs.Text.Decimal

/-!
# Mounted trees

What the tree pane holds while it shows a tree. The elements are numbered in document order, so a
node that is the `k`-th of its tree has its list at number `next + 2 * k` and its label right after
it; `rows` lists the elements that way, and everything below is read off `rows`:

* a handle leads to one element (`find?_list`, `find?_label`);
* the element around a label is the list of its node (`find?_around_label`);
* the labels are the elements of their class (`filter_label`);
* changing the class of one list changes which lists are lit, and nothing else (`updateIn_mounted`).
-/

namespace SyntaxPlayground

namespace Document

theorem handleText_injective {m n : Nat} (h : handleText m = handleText n) : m = n :=
  Text.ofNat_injective (List.append_cancel_left h)

theorem nodup_map_handleText {numbers : List Nat} (h : numbers.Nodup) :
    (numbers.map handleText).Nodup :=
  List.Pairwise.map _ (fun _ _ hne heq => hne (handleText_injective heq)) h

end Document

namespace Tree

open Builder Markup Document

/-! ## The elements of a mounted tree -/

/-- The class list of a node's list. -/
def listClass (lit : Bool) : Text :=
  if lit then Vocabulary.node ++ utf8 " " ++ Vocabulary.highlight else Vocabulary.node

/-- The attributes of a node's list under the given number. -/
def mountedAttributes (lit : Bool) (number : Nat) (s : Option Span) : Attributes :=
  [⟨Vocabulary.classAttr, listClass lit⟩, ⟨Vocabulary.start, (spanValues s).1⟩,
    ⟨Vocabulary.stop, (spanValues s).2⟩, ⟨Vocabulary.handle, handleText number⟩]

/-- The label of a node under the given number. -/
def mountedLabel (number : Nat) (t : Tree) : Markup :=
  .element .html itemTag
    [⟨Vocabulary.classAttr, Vocabulary.label⟩, ⟨Vocabulary.handle, handleText number⟩]
    (Markup.text t.label).legible

mutual

/-- A tree in the tree pane, numbered from `next` on. `lit` tells which lists are highlighted. -/
def mounted (lit : Nat → Bool) (next : Nat) : Tree → Markup
  | node k l s cs =>
    .element .html listTag (mountedAttributes (lit next) next s)
      (mountedLabel (next + 1) (node k l s cs) :: mountedAll lit (next + 2) cs)

/-- Sibling trees in the tree pane. -/
def mountedAll (lit : Nat → Bool) (next : Nat) : List Tree → List Markup
  | [] => []
  | t :: ts => mounted lit next t :: mountedAll lit (next + 2 * t.count) ts

end

/-- No list is highlighted. -/
def dark : Nat → Bool := fun _ => false

/-- The elements of mounted nodes, two for each node: its list and its label. -/
def rows (lit : Nat → Bool) (next : Nat) : List Tree → List Markup
  | [] => []
  | t :: ts => t.mounted lit next :: t.mountedLabel (next + 1) :: rows lit (next + 2) ts

theorem rows_append (lit : Nat → Bool) (next : Nat) (ts us : List Tree) :
    rows lit next (ts ++ us) = rows lit next ts ++ rows lit (next + 2 * ts.length) us := by
  induction ts generalizing next with
  | nil => rfl
  | cons t ts ih =>
    have hnext : next + 2 + 2 * ts.length = next + 2 * (t :: ts).length := by
      rw [List.length_cons]
      omega
    rw [List.cons_append, rows, ih, hnext]
    rfl

theorem length_rows (lit : Nat → Bool) (next : Nat) (ts : List Tree) :
    (rows lit next ts).length = 2 * ts.length := by
  induction ts generalizing next with
  | nil => rfl
  | cons t ts ih =>
    rw [rows, List.length_cons, List.length_cons, ih, List.length_cons]
    omega

theorem rows_list (lit : Nat → Bool) (next : Nat) {ts : List Tree} {k : Nat} {n : Tree}
    (h : ts[k]? = some n) : (rows lit next ts)[2 * k]? = some (n.mounted lit (next + 2 * k)) := by
  induction ts generalizing next k with
  | nil => simp at h
  | cons t ts ih =>
    cases k with
    | zero =>
      rw [List.getElem?_cons_zero] at h
      rw [Option.some_inj.mp h]
      rfl
    | succ k =>
      have hnext : next + 2 + 2 * k = next + 2 * (k + 1) := by omega
      rw [List.getElem?_cons_succ] at h
      rw [rows, Nat.mul_succ, List.getElem?_cons_succ, List.getElem?_cons_succ, ih _ h, hnext]
      rfl

theorem rows_label (lit : Nat → Bool) (next : Nat) {ts : List Tree} {k : Nat} {n : Tree}
    (h : ts[k]? = some n) :
    (rows lit next ts)[2 * k + 1]? = some (n.mountedLabel (next + 2 * k + 1)) := by
  induction ts generalizing next k with
  | nil => simp at h
  | cons t ts ih =>
    cases k with
    | zero =>
      rw [List.getElem?_cons_zero] at h
      rw [Option.some_inj.mp h]
      rfl
    | succ k =>
      have hnext : next + 2 + 2 * k + 1 = next + 2 * (k + 1) + 1 := by omega
      rw [List.getElem?_cons_succ] at h
      rw [rows, show 2 * (k + 1) + 1 = 2 * k + 1 + 1 + 1 by omega, List.getElem?_cons_succ,
        List.getElem?_cons_succ, ih _ h, hnext]

/-- Every element of mounted nodes is the list or the label of one of them. -/
theorem exists_of_mem_rows {lit : Nat → Bool} {next : Nat} {ts : List Tree} {m : Markup}
    (h : m ∈ rows lit next ts) : ∃ (k : Nat) (n : Tree), ts[k]? = some n ∧
      (m = n.mounted lit (next + 2 * k) ∨ m = n.mountedLabel (next + 2 * k + 1)) := by
  induction ts generalizing next with
  | nil => exact absurd h List.not_mem_nil
  | cons t ts ih =>
    rcases List.mem_cons.mp h with hlist | h
    · exact ⟨0, t, rfl, Or.inl hlist⟩
    · rcases List.mem_cons.mp h with hlabel | h
      · exact ⟨0, t, rfl, Or.inr hlabel⟩
      · rcases ih h with ⟨k, n, hk, hm⟩
        refine ⟨k + 1, n, hk, ?_⟩
        rw [show next + 2 * (k + 1) = next + 2 + 2 * k by omega]
        exact hm

theorem elementsAll_text_legible (s : Text) : elementsAll (Markup.text s).legible = [] := by
  unfold legible
  split <;> rfl

theorem elementsAll_mountedAll (lit : Nat → Bool) {cs : List Tree}
    (h : ∀ c ∈ cs, ∀ next, (c.mounted lit next).elements = rows lit next c.nodes) (next : Nat) :
    elementsAll (mountedAll lit next cs) = rows lit next (cs.flatMap nodes) := by
  induction cs generalizing next with
  | nil => rfl
  | cons c cs ih =>
    have hhead := h c List.mem_cons_self next
    have htail := ih (fun x hx => h x (List.mem_cons_of_mem c hx)) (next + 2 * c.count)
    rw [mountedAll, elementsAll, hhead, htail, List.flatMap_cons, rows_append, length_nodes]

/-- The elements of a mounted tree are the rows of its nodes. -/
theorem elements_mounted (lit : Nat → Bool) (t : Tree) (next : Nat) :
    (t.mounted lit next).elements = rows lit next t.nodes := by
  induction t using induct generalizing next with
  | step k l s cs ih =>
    have hlabel : (mountedLabel (next + 1) (node k l s cs)).elements =
        [mountedLabel (next + 1) (node k l s cs)] := by
      rw [mountedLabel, elements, elementsAll_text_legible]
    rw [nodes_node, rows, mounted, elements, elementsAll, hlabel,
      elementsAll_mountedAll lit ih (next + 2)]
    rfl

theorem elementsAll_singleton (m : Markup) : elementsAll [m] = m.elements := by
  rw [elementsAll, elementsAll, List.append_nil]

/-! ## Handles -/

theorem carries_iff {h : Handle} {m : Markup} : carries h m = true ↔ handleOf? m = some h := by
  unfold carries
  rw [beq_iff_eq]

theorem handleOf?_mounted (lit : Nat → Bool) (next : Nat) (t : Tree) :
    handleOf? (t.mounted lit next) = some (handleText next) := by
  rcases t with ⟨k, l, s, cs⟩
  rfl

theorem handleOf?_mountedLabel (next : Nat) (t : Tree) :
    handleOf? (t.mountedLabel next) = some (handleText next) :=
  rfl

/-- The number of an element of mounted nodes is that of a list or of a label. -/
theorem eq_of_carries {lit : Nat → Bool} {next i : Nat} {ts : List Tree} {m : Markup}
    (hm : m ∈ rows lit next ts) (h : carries (handleText i) m = true) :
    ∃ (k : Nat) (n : Tree), ts[k]? = some n ∧
      (i = next + 2 * k ∧ m = n.mounted lit (next + 2 * k) ∨
        i = next + 2 * k + 1 ∧ m = n.mountedLabel (next + 2 * k + 1)) := by
  rcases exists_of_mem_rows hm with ⟨k, n, hk, rfl | rfl⟩
  · rw [carries_iff, handleOf?_mounted, Option.some_inj] at h
    exact ⟨k, n, hk, Or.inl ⟨(handleText_injective h).symm, rfl⟩⟩
  · rw [carries_iff, handleOf?_mountedLabel, Option.some_inj] at h
    exact ⟨k, n, hk, Or.inr ⟨(handleText_injective h).symm, rfl⟩⟩

/-- The handles of mounted nodes are numbered one after the other. -/
theorem filterMap_handleOf?_rows (lit : Nat → Bool) (next : Nat) (ts : List Tree) :
    (rows lit next ts).filterMap handleOf? = (List.range' next (2 * ts.length)).map handleText := by
  induction ts generalizing next with
  | nil => rfl
  | cons t ts ih =>
    rw [rows, List.filterMap_cons, handleOf?_mounted, List.filterMap_cons, handleOf?_mountedLabel,
      ih, List.length_cons, Nat.mul_succ, List.range'_succ, List.range'_succ]
    rfl

theorem find?_eq_some_of_unique {α : Type} {p : α → Bool} {l : List α} {a : α} (ha : a ∈ l)
    (hp : p a = true) (hunique : ∀ b ∈ l, p b = true → b = a) : l.find? p = some a := by
  cases hfind : l.find? p with
  | none => exact absurd hp (List.find?_eq_none.mp hfind a ha)
  | some b =>
    have hb := hunique b (List.mem_of_find?_eq_some hfind) (List.find?_some hfind)
    rw [hb]

/-- The handle of a list leads to the list. -/
theorem find?_list (lit : Nat → Bool) (next : Nat) {ts : List Tree} {k : Nat} {n : Tree}
    (h : ts[k]? = some n) : (rows lit next ts).find? (carries (handleText (next + 2 * k))) =
      some (n.mounted lit (next + 2 * k)) := by
  apply find?_eq_some_of_unique (List.mem_of_getElem? (rows_list lit next h))
  · rw [carries_iff, handleOf?_mounted]
  · intro m hm hcarries
    -- another list has another number, and so has every label
    rcases eq_of_carries hm hcarries with ⟨j, n', hj, ⟨hnumber, hm⟩ | ⟨hnumber, _⟩⟩
    · have hjk : j = k := by omega
      subst hjk
      rw [hm, Option.some_inj.mp (hj.symm.trans h)]
    · omega

/-- The handle of a label leads to the label. -/
theorem find?_label (lit : Nat → Bool) (next : Nat) {ts : List Tree} {k : Nat} {n : Tree}
    (h : ts[k]? = some n) : (rows lit next ts).find? (carries (handleText (next + 2 * k + 1))) =
      some (n.mountedLabel (next + 2 * k + 1)) := by
  apply find?_eq_some_of_unique (List.mem_of_getElem? (rows_label lit next h))
  · rw [carries_iff, handleOf?_mountedLabel]
  · intro m hm hcarries
    rcases eq_of_carries hm hcarries with ⟨j, n', hj, ⟨hnumber, _⟩ | ⟨hnumber, hm⟩⟩
    · omega
    · have hjk : j = k := by omega
      subst hjk
      rw [hm, Option.some_inj.mp (hj.symm.trans h)]

/-! ## The element around a label -/

/-- Siblings stand at even distances. -/
theorem exists_handle_of_mem_mountedAll {lit : Nat → Bool} {next : Nat} {cs : List Tree}
    {m : Markup} (h : m ∈ mountedAll lit next cs) :
    ∃ r, handleOf? m = some (handleText (next + 2 * r)) := by
  induction cs generalizing next with
  | nil => exact absurd h List.not_mem_nil
  | cons c cs ih =>
    rw [mountedAll] at h
    rcases List.mem_cons.mp h with rfl | h
    · exact ⟨0, handleOf?_mounted lit next c⟩
    · rcases ih h with ⟨r, hr⟩
      refine ⟨c.count + r, ?_⟩
      rw [hr, Nat.mul_add, Nat.add_assoc]

theorem children_mountedLabel {next : Nat} {t : Tree} {h : Handle} :
    (t.mountedLabel next).children.any (carries h) = false := by
  have htext : (Markup.text t.label).legible.any (carries h) = false := by
    unfold legible
    split <;> rfl
  exact htext

/-- Of the lists only the one right before a label has it as a child. -/
theorem children_mounted {lit : Nat → Bool} {next k i : Nat} {t : Tree}
    (h : (t.mounted lit (next + 2 * k)).children.any (carries (handleText (next + 2 * i + 1))) = true) :
    i = k := by
  rcases t with ⟨kind, l, s, cs⟩
  rcases List.any_eq_true.mp h with ⟨m, hm, hcarries⟩
  rw [carries_iff] at hcarries
  rw [mounted] at hm
  -- its first child is its own label, and the others are lists
  rcases List.mem_cons.mp hm with rfl | hm
  · rw [handleOf?_mountedLabel, Option.some_inj] at hcarries
    have hnumber := handleText_injective hcarries
    omega
  · rcases exists_handle_of_mem_mountedAll hm with ⟨r, hr⟩
    rw [hr, Option.some_inj] at hcarries
    have hnumber := handleText_injective hcarries
    omega

/-- The element around a label is the list of its node. -/
theorem find?_around_label (lit : Nat → Bool) (next : Nat) {ts : List Tree} {k : Nat} {n : Tree}
    (h : ts[k]? = some n) :
    (rows lit next ts).find? (·.children.any (carries (handleText (next + 2 * k + 1)))) =
      some (n.mounted lit (next + 2 * k)) := by
  apply find?_eq_some_of_unique (List.mem_of_getElem? (rows_list lit next h))
  · rcases n with ⟨kind, l, s, cs⟩
    rw [mounted, Markup.children, List.any_cons, Bool.or_eq_true, carries_iff, handleOf?_mountedLabel]
    exact Or.inl rfl
  · intro m hm hchild
    -- labels have no elements in them, and another list has other children
    rcases exists_of_mem_rows hm with ⟨j, n', hj, rfl | rfl⟩
    · have hkj : k = j := children_mounted hchild
      subst hkj
      rw [Option.some_inj.mp (hj.symm.trans h)]
    · rw [children_mountedLabel] at hchild
      exact absurd hchild Bool.false_ne_true

/-! ## Classes -/

theorem hasClass_node_list (lit : Bool) (number : Nat) (s : Option Span) :
    (mountedAttributes lit number s).hasClass Vocabulary.node = true := by
  have hclass : (mountedAttributes lit number s).classText = listClass lit := rfl
  unfold Attributes.hasClass Attributes.classNames
  rw [hclass]
  cases lit <;> decide +kernel

theorem hasClass_label_list (lit : Bool) (number : Nat) (s : Option Span) :
    (mountedAttributes lit number s).hasClass Vocabulary.label = false := by
  have hclass : (mountedAttributes lit number s).classText = listClass lit := rfl
  unfold Attributes.hasClass Attributes.classNames
  rw [hclass]
  cases lit <;> decide +kernel

theorem hasClass_label_mountedLabel (next : Nat) (t : Tree) :
    (t.mountedLabel next).attrs.hasClass Vocabulary.label = true := by
  have hclass : (t.mountedLabel next).attrs.classText = Vocabulary.label := rfl
  unfold Attributes.hasClass Attributes.classNames
  rw [hclass]
  decide +kernel

theorem attrs_mounted (lit : Nat → Bool) (next : Nat) (t : Tree) :
    (t.mounted lit next).attrs = mountedAttributes (lit next) next t.span := by
  rcases t with ⟨k, l, s, cs⟩
  rfl

/-- The handles of the labels of `count` nodes that are mounted from `next` on. -/
def labelHandles (next count : Nat) : List Handle :=
  (List.range' (next + 1) count 2).map handleText

/-- Of the two elements of a node the label is in the label class and the list is not. -/
theorem filter_label_cons (lit : Nat → Bool) (next : Nat) (t : Tree) (ts : List Tree) :
    (rows lit next (t :: ts)).filter (·.attrs.hasClass Vocabulary.label) =
      t.mountedLabel (next + 1) ::
        (rows lit (next + 2) ts).filter (·.attrs.hasClass Vocabulary.label) := by
  have hlist : (t.mounted lit next).attrs.hasClass Vocabulary.label = false := by
    rw [attrs_mounted]
    exact hasClass_label_list _ _ _
  have hlabel := hasClass_label_mountedLabel (next + 1) t
  simp only [rows, List.filter_cons, hlist, hlabel, Bool.false_eq_true, if_false, if_true]

/-- The elements of the label class are the labels, one for each node. -/
theorem filter_label (lit : Nat → Bool) (next : Nat) (ts : List Tree) :
    ((rows lit next ts).filter (·.attrs.hasClass Vocabulary.label)).filterMap handleOf? =
      labelHandles next ts.length := by
  induction ts generalizing next with
  | nil => rfl
  | cons t ts ih =>
    rw [filter_label_cons, List.filterMap_cons, handleOf?_mountedLabel, ih, List.length_cons]
    unfold labelHandles
    rw [List.range'_succ]
    rfl

theorem length_filter_label (lit : Nat → Bool) (next : Nat) (ts : List Tree) :
    ((rows lit next ts).filter (·.attrs.hasClass Vocabulary.label)).length = ts.length := by
  induction ts generalizing next with
  | nil => rfl
  | cons t ts ih => rw [filter_label_cons, List.length_cons, ih, List.length_cons]

/-! ## Changing one class list -/

/-- Lists as before, but one of them lit or not. -/
def switch (lit : Nat → Bool) (number : Nat) (on : Bool) : Nat → Bool :=
  fun n => if n = number then on else lit n

theorem addClass_list (lit : Bool) (number : Nat) (s : Option Span) :
    (mountedAttributes lit number s).addClass Vocabulary.highlight =
      mountedAttributes true number s := by
  have hclass : (mountedAttributes lit number s).classText = listClass lit := rfl
  unfold Attributes.addClass Attributes.hasClass Attributes.classNames
  rw [hclass]
  cases lit with
  | false =>
    have hwords : (listClass false).words.contains Vocabulary.highlight = false := by decide +kernel
    rw [hwords]
    rfl
  | true =>
    have hwords : (listClass true).words.contains Vocabulary.highlight = true := by decide +kernel
    rw [hwords]
    rfl

theorem removeClass_list (lit : Bool) (number : Nat) (s : Option Span) :
    (mountedAttributes lit number s).removeClass Vocabulary.highlight =
      mountedAttributes false number s := by
  have hget : (mountedAttributes lit number s).get? Vocabulary.classAttr = some (listClass lit) := rfl
  have hwords : Text.join (utf8 " ") ((listClass lit).words.filter (· ≠ Vocabulary.highlight)) =
      listClass false := by
    cases lit <;> decide +kernel
  unfold Attributes.removeClass Attributes.classNames Attributes.classText
  rw [hget, Option.getD_some, hwords]
  rfl

theorem updateInAll_text (h : Handle) (f : Attributes → Attributes) (s : Text) :
    updateInAll h f (Markup.text s).legible = (Markup.text s).legible := by
  unfold legible
  split <;> rfl

theorem updateIn_mountedLabel {f : Attributes → Attributes} {number i : Nat} (hi : i ≠ number)
    (t : Tree) : updateIn (handleText i) f (t.mountedLabel number) = t.mountedLabel number := by
  have hother : ¬ some (handleText number) = some (handleText i) := by
    intro heq
    exact hi (handleText_injective (Option.some_inj.mp heq)).symm
  have hget := handleOf?_mountedLabel number t
  simp only [mountedLabel, handleOf?, Markup.attrs] at hget
  rw [mountedLabel, updateIn, updateInAll_text, hget, if_neg hother]

/-- The attributes of a list after a change of the class list of the element `i`. -/
theorem update_mountedAttributes {f : Attributes → Attributes} {on : Bool}
    (hf : ∀ lit number s, f (mountedAttributes lit number s) = mountedAttributes on number s)
    (lit : Nat → Bool) (next i : Nat) (s : Option Span) :
    (if (mountedAttributes (lit next) next s).get? Vocabulary.handle = some (handleText i) then
        f (mountedAttributes (lit next) next s)
      else mountedAttributes (lit next) next s) =
      mountedAttributes (switch lit i on next) next s := by
  have hget : (mountedAttributes (lit next) next s).get? Vocabulary.handle =
      some (handleText next) := rfl
  rw [hget]
  by_cases hnumber : next = i
  · rw [hnumber, if_pos rfl, hf]
    simp [switch]
  · have hother : ¬ some (handleText next) = some (handleText i) := by
      intro heq
      exact hnumber (handleText_injective (Option.some_inj.mp heq))
    rw [if_neg hother]
    simp [switch, hnumber]

theorem updateInAll_mountedAll {f : Attributes → Attributes} {on : Bool} {lit : Nat → Bool} {i : Nat}
    {cs : List Tree} (h : ∀ c ∈ cs, ∀ next, i % 2 = next % 2 →
      updateIn (handleText i) f (c.mounted lit next) = c.mounted (switch lit i on) next)
    {next : Nat} (hi : i % 2 = next % 2) :
    updateInAll (handleText i) f (mountedAll lit next cs) =
      mountedAll (switch lit i on) next cs := by
  induction cs generalizing next with
  | nil => rfl
  | cons c cs ih =>
    have hhead := h c List.mem_cons_self next hi
    have htail := ih (fun x hx => h x (List.mem_cons_of_mem c hx))
      (show i % 2 = (next + 2 * c.count) % 2 by omega)
    rw [mountedAll, updateInAll, hhead, htail]
    rfl

/-- Changing the class list of a list lights it or not; the labels stay as they are, because theirs
are the numbers between. -/
theorem updateIn_mounted {f : Attributes → Attributes} {on : Bool}
    (hf : ∀ lit number s, f (mountedAttributes lit number s) = mountedAttributes on number s)
    (lit : Nat → Bool) (t : Tree) {next i : Nat} (hi : i % 2 = next % 2) :
    updateIn (handleText i) f (t.mounted lit next) = t.mounted (switch lit i on) next := by
  induction t using induct generalizing next with
  | step k l s cs ih =>
    have hlabel : updateIn (handleText i) f (mountedLabel (next + 1) (node k l s cs)) =
        mountedLabel (next + 1) (node k l s cs) :=
      updateIn_mountedLabel (by omega) _
    have hchildren := updateInAll_mountedAll (fun c hc next hi => ih c hc hi)
      (show i % 2 = (next + 2) % 2 by omega)
    rw [mounted, updateIn, updateInAll, hlabel, hchildren, update_mountedAttributes hf]
    rfl

mutual

/-- Changing an element that is not there changes nothing. -/
theorem updateIn_eq_self {h : Handle} (f : Attributes → Attributes) :
    ∀ m : Markup, h ∉ m.elements.filterMap handleOf? → updateIn h f m = m
  | .element ns t as cs, hm => by
    rw [elements, List.filterMap_cons] at hm
    have hcs : h ∉ handlesIn cs := by
      intro hmem
      apply hm
      split
      · exact hmem
      · exact List.mem_cons_of_mem _ hmem
    have has : ¬ as.get? Vocabulary.handle = some h := by
      intro has
      apply hm
      unfold handleOf?
      rw [show (Markup.element ns t as cs).attrs = as from rfl, has]
      exact List.mem_cons_self
    rw [updateIn, if_neg has, updateInAll_eq_self f cs hcs]
  | .text _, _ => rfl
  | .comment _, _ => rfl

theorem updateInAll_eq_self {h : Handle} (f : Attributes → Attributes) :
    ∀ ms : List Markup, h ∉ handlesIn ms → updateInAll h f ms = ms
  | [], _ => rfl
  | m :: ms, hms => by
    unfold handlesIn at hms
    rw [elementsAll, List.filterMap_append, List.mem_append, not_or] at hms
    rw [updateInAll, updateIn_eq_self f m hms.1, updateInAll_eq_self f ms hms.2]

end

end Tree

/-! ## In a document -/

namespace Markup

theorem elementsAll_append (ms ms' : List Markup) :
    elementsAll (ms ++ ms') = elementsAll ms ++ elementsAll ms' := by
  induction ms with
  | nil => rfl
  | cons m ms ih => rw [List.cons_append, elementsAll, elementsAll, ih, List.append_assoc]

end Markup

namespace Document

open Markup SyntaxPlayground.Tree

variable {d : Document} {t : Tree} {lit : Nat → Bool} {next : Nat}

/-- In a document that shows a tree, what is found among its rows is found. -/
theorem find?_content {p : Markup → Bool} {m : Markup} (h : d.content = [t.mounted lit next])
    (hfind : (rows lit next t.nodes).find? p = some m) :
    (elementsAll (d.content ++ d.detached)).find? p = some m := by
  rw [elementsAll_append, h, elementsAll_singleton, elements_mounted, List.find?_append, hfind]
  rfl

theorem element?_list (h : d.content = [t.mounted lit next]) {k : Nat} {n : Tree}
    (hk : t.nodes[k]? = some n) :
    d.element? (handleText (next + 2 * k)) = some (n.mounted lit (next + 2 * k)) :=
  find?_content h (find?_list lit next hk)

theorem element?_label (h : d.content = [t.mounted lit next]) {k : Nat} {n : Tree}
    (hk : t.nodes[k]? = some n) :
    d.element? (handleText (next + 2 * k + 1)) = some (n.mountedLabel (next + 2 * k + 1)) :=
  find?_content h (find?_label lit next hk)

theorem tag?_list (h : d.content = [t.mounted lit next]) {k : Nat} {n : Tree}
    (hk : t.nodes[k]? = some n) :
    d.tag? (.element (handleText (next + 2 * k))) = some (utf8 "ul") := by
  rcases n with ⟨kind, l, s, cs⟩
  unfold tag?
  simp only [element?_list h hk, Option.map_some]
  rfl

theorem tag?_label (h : d.content = [t.mounted lit next]) {k : Nat} {n : Tree}
    (hk : t.nodes[k]? = some n) :
    d.tag? (.element (handleText (next + 2 * k + 1))) = some (utf8 "li") := by
  unfold tag?
  simp only [element?_label h hk, Option.map_some]
  rfl

theorem attrs?_list (h : d.content = [t.mounted lit next]) {k : Nat} {n : Tree}
    (hk : t.nodes[k]? = some n) : d.attrs? (.element (handleText (next + 2 * k))) =
      some (mountedAttributes (lit (next + 2 * k)) (next + 2 * k) n.span) := by
  have hattrs : d.attrs? (.element (handleText (next + 2 * k))) =
      (d.element? (handleText (next + 2 * k))).map Markup.attrs := rfl
  rw [hattrs, element?_list h hk, Option.map_some, attrs_mounted]

/-- The element around a label is the list of its node. -/
theorem parent_label (h : d.content = [t.mounted lit next]) {k : Nat} {n : Tree}
    (hk : t.nodes[k]? = some n) :
    d.parent (.element (handleText (next + 2 * k + 1))) = .element (handleText (next + 2 * k)) := by
  have hroot : d.content.any (carries (handleText (next + 2 * k + 1))) = false := by
    rw [h, List.any_cons, List.any_nil, Bool.or_false, Bool.eq_false_iff]
    intro hcarries
    rw [carries_iff, handleOf?_mounted, Option.some_inj] at hcarries
    have hnumber := handleText_injective hcarries
    omega
  have hfind := find?_content h (find?_around_label lit next hk)
  simp only [parent, hroot, hfind, Bool.false_eq_true, if_false, handleOf?_mounted]

theorem withClass_label (h : d.content = [t.mounted lit next]) :
    d.withClass Vocabulary.label = labelHandles next t.count := by
  unfold withClass
  rw [h, elementsAll_singleton, elements_mounted, filter_label, length_nodes]

end Document

end SyntaxPlayground
