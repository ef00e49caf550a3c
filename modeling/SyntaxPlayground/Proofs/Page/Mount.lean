import SyntaxPlayground.Proofs.Page.Mounted

/-!
# Mounting a tree

Mounting what is written for a tree puts that tree, numbered from the next free handle on, into the
tree pane (`mount_render`); only a tree that is too high cannot be mounted. If no kind holds a NUL
nothing of the tree gets lost on the way: the content is the markup of the tree with a handle on every
element (`mount_render_faithful`).
-/

namespace SyntaxPlayground

namespace Document

open Builder Markup SyntaxPlayground.Tree

/-! ## Numbering -/

theorem numberAll_append (next : Nat) (ms ms' : List Markup) :
    numberAll next (ms ++ ms') =
      ((numberAll next ms).1 ++ (numberAll (numberAll next ms).2 ms').1,
        (numberAll (numberAll next ms).2 ms').2) := by
  induction ms generalizing next with
  | nil => rfl
  | cons m ms ih => simp only [List.cons_append, numberAll, ih]

/-- Text gets no handles. -/
theorem numberAll_text (next : Nat) (s : Text) :
    numberAll next (Markup.text s).legible = ((Markup.text s).legible, next) := by
  unfold legible
  split <;> rfl

theorem numberAll_label (next : Nat) (t : Tree) :
    numberAll next t.labelItem.legible = ([t.mountedLabel next], next + 1) := by
  rw [labelItem, legible, legibleAll, legibleAll, List.append_nil, numberAll, number, numberAll_text]
  rfl

theorem numberAll_markupAll {cs : List Tree}
    (h : ∀ c ∈ cs, ∀ next, numberAll next c.markup.legible =
      ([c.mounted dark next], next + 2 * c.count)) (next : Nat) :
    numberAll next (legibleAll (markupAll cs)) =
      (mountedAll dark next cs, next + 2 * (cs.flatMap Tree.nodes).length) := by
  induction cs generalizing next with
  | nil => rfl
  | cons c cs ih =>
    have hhead := h c List.mem_cons_self next
    have htail := ih (fun x hx => h x (List.mem_cons_of_mem c hx)) (next + 2 * c.count)
    rw [markupAll, legibleAll, numberAll_append, hhead, htail, List.flatMap_cons,
      List.length_append, length_nodes, Nat.mul_add, Nat.add_assoc]
    rfl

/-- Numbering the markup of a tree gives the tree as it is mounted. -/
theorem numberAll_markup (t : Tree) (next : Nat) :
    numberAll next t.markup.legible = ([t.mounted dark next], next + 2 * t.count) := by
  induction t using induct generalizing next with
  | step k l s cs ih =>
    have hcount : next + 1 + 1 + 2 * (cs.flatMap Tree.nodes).length = next + 2 * (node k l s cs).count := by
      rw [count_node]
      omega
    rw [markup, legible, legibleAll, numberAll, number, numberAll_append, numberAll_label,
      numberAll_markupAll ih, hcount]
    rfl

/-! ## Mounting -/

theorem handlesIn_mounted (lit : Nat → Bool) (next : Nat) (t : Tree) :
    handlesIn [t.mounted lit next] = (List.range' next (2 * t.count)).map handleText := by
  unfold handlesIn
  rw [elementsAll_singleton, elements_mounted, filterMap_handleOf?_rows, length_nodes]

/-- The document with a tree in its tree pane. -/
def showing (d : Document) (t : Tree) : Document :=
  { d.clear with
    content := [t.mounted dark d.nextHandle]
    handles := d.clear.handles ++ (List.range' d.nextHandle (2 * t.count)).map handleText
    nextHandle := d.nextHandle + 2 * t.count }

/-- Mounting what is written for a tree shows the tree, unless it is too high. -/
theorem mount_render (d : Document) (t : Tree) :
    d.mount t.render =
      if t.height ≤ maxHeight then .ok (d.showing t) else .error (.badMarkup .tooDeep) := by
  have hnext : d.clear.nextHandle = d.nextHandle := rfl
  unfold mount
  rw [read_render]
  by_cases hheight : t.height ≤ maxHeight
  · rw [if_pos hheight, if_pos hheight]
    simp only [hnext, numberAll_markup, handlesIn_mounted]
    rfl
  · rw [if_neg hheight, if_neg hheight]

theorem mount_render_eq_ok {d d' : Document} {t : Tree} :
    d.mount t.render = .ok d' ↔ t.height ≤ maxHeight ∧ d' = d.showing t := by
  rw [mount_render]
  by_cases hheight : t.height ≤ maxHeight
  · rw [if_pos hheight, Except.ok.injEq]
    exact ⟨fun h => ⟨hheight, h.symm⟩, fun h => h.2.symm⟩
  · rw [if_neg hheight]
    constructor
    · intro h
      cases h
    · intro h
      exact absurd h.1 hheight

/-- Mounting nothing empties the tree pane. -/
theorem mount_nil (d : Document) : d.mount [] = .ok d.clear := by
  have hread : Markup.read [] = .ok [] := rfl
  unfold mount
  rw [hread]
  simp only [numberAll, handlesIn, elementsAll, List.filterMap_nil, List.append_nil]
  rfl

end Document

/-! ## Nothing gets lost -/

namespace Markup

mutual

/-- The node without the handles of its elements. -/
def withoutHandles : Markup → Markup
  | element space tag attrs children =>
    element space tag (attrs.filter (·.name ≠ Vocabulary.handle)) (withoutHandlesAll children)
  | text s => text s
  | comment s => comment s

/-- Some siblings without the handles of their elements. -/
def withoutHandlesAll : List Markup → List Markup
  | [] => []
  | m :: ms => withoutHandles m :: withoutHandlesAll ms

end

/-- Whether the node is a text without a character. -/
def isEmptyText : Markup → Bool
  | text s => s.isEmpty
  | _ => false

mutual

/-- The node without the empty texts below it. -/
def withoutEmptyTexts : Markup → Markup
  | element space tag attrs children => element space tag attrs (withoutEmptyTextsAll children)
  | text s => text s
  | comment s => comment s

/-- Some siblings without the empty texts among and below them. -/
def withoutEmptyTextsAll : List Markup → List Markup
  | [] => []
  | m :: ms =>
    if m.isEmptyText then withoutEmptyTextsAll ms
    else withoutEmptyTexts m :: withoutEmptyTextsAll ms

end

end Markup

namespace Tree

open Builder Markup Document

/-- The text of a label holds a NUL only if the kind does. -/
theorem zero_notMem_label {t : Tree} (h : 0 ∉ t.kind) : 0 ∉ t.label := by
  unfold label
  cases t.span with
  | none => exact h
  | some s =>
    have hspace : (0 : UInt8) ∉ utf8 " " := by decide +kernel
    have hat : (0 : UInt8) ∉ utf8 "@" := by decide +kernel
    have hdots : (0 : UInt8) ∉ utf8 ".." := by decide +kernel
    have hstart := Text.zero_notMem_ofInt s.start
    have hstop := Text.zero_notMem_ofInt s.stop
    simp [Span.text, h, hspace, hat, hdots, hstart, hstop]

theorem legible_text {s : Text} (h : 0 ∉ s) :
    (Markup.text s).legible = if s.isEmpty then [] else [Markup.text s] := by
  have hfilter : s.filter (· ≠ 0) = s := by
    rw [List.filter_eq_self]
    intro b hb
    rw [decide_eq_true_eq]
    intro hzero
    exact h (hzero ▸ hb)
  rw [legible, hfilter]

theorem textContent_mountedLabel {t : Tree} (h : 0 ∉ t.kind) (number : Nat) :
    (t.mountedLabel number).textContent = t.label := by
  rw [mountedLabel, textContent, legible_text (zero_notMem_label h)]
  split
  · rename_i hempty
    rw [List.isEmpty_iff.mp hempty]
    rfl
  · rw [textContentAll, textContent, textContentAll, List.append_nil]

theorem withoutHandles_mountedLabel {t : Tree} (h : 0 ∉ t.kind) (number : Nat) :
    (t.mountedLabel number).withoutHandles = t.labelItem.withoutEmptyTexts := by
  have hattrs : [Attribute.mk Vocabulary.classAttr Vocabulary.label,
      ⟨Vocabulary.handle, handleText number⟩].filter (·.name ≠ Vocabulary.handle) =
      [⟨Vocabulary.classAttr, Vocabulary.label⟩] := rfl
  rw [mountedLabel, labelItem, withoutHandles, withoutEmptyTexts, hattrs,
    legible_text (zero_notMem_label h), withoutEmptyTextsAll, isEmptyText]
  split <;> rfl

theorem withoutHandlesAll_mountedAll {cs : List Tree}
    (h : ∀ c ∈ cs, ∀ next, (c.mounted dark next).withoutHandles = c.markup.withoutEmptyTexts)
    (next : Nat) :
    withoutHandlesAll (mountedAll dark next cs) = withoutEmptyTextsAll (markupAll cs) := by
  induction cs generalizing next with
  | nil => rfl
  | cons c cs ih =>
    have hhead := h c List.mem_cons_self next
    have htail := ih (fun x hx => h x (List.mem_cons_of_mem c hx)) (next + 2 * c.count)
    have helement : c.markup.isEmptyText = false := by
      rcases c with ⟨k, l, s, cs'⟩
      rfl
    rw [mountedAll, withoutHandlesAll, hhead, htail, markupAll, withoutEmptyTextsAll, helement]
    rfl

/-- A mounted tree without its handles is the markup of the tree. -/
theorem withoutHandles_mounted {t : Tree} (h : ∀ n ∈ t.nodes, 0 ∉ n.kind) (next : Nat) :
    (t.mounted dark next).withoutHandles = t.markup.withoutEmptyTexts := by
  induction t using induct generalizing next with
  | step k l s cs ih =>
    have hchildren := withoutHandlesAll_mountedAll
      (fun c hc next => ih c hc (fun n hn => h n (mem_nodes_of_child hc hn)) next) (next + 2)
    have hattrs : (mountedAttributes (dark next) next s).filter (·.name ≠ Vocabulary.handle) =
        listAttributes s := rfl
    have hlabel := withoutHandles_mountedLabel (h (node k l s cs) (mem_nodes_self _)) (next + 1)
    rw [mounted, withoutHandles, withoutHandlesAll, hattrs, hlabel, hchildren, markup,
      withoutEmptyTexts, withoutEmptyTextsAll]
    rfl

end Tree

namespace Document

open Builder Markup SyntaxPlayground.Tree

/-- The node `n` stands in the tree pane at the numbers `i` and `i + 1`, with its list and its label. -/
structure StandsAt (d : Document) (n : Tree) (i : Nat) (list label : Markup) : Prop where
  list_tag : list.tag = utf8 "ul"
  list_attrs : list.attrs = listAttributes n.span ++ [⟨Vocabulary.handle, handleText i⟩]
  label_first : list.children.head? = some label
  label_tag : label.tag = utf8 "li"
  label_attrs : label.attrs =
    [⟨Vocabulary.classAttr, Vocabulary.label⟩, ⟨Vocabulary.handle, handleText (i + 1)⟩]
  label_text : label.textContent = n.label
  list_resolves : d.resolve (handleText i) = .ok (.element (handleText i))
  list_found : d.element? (handleText i) = some list
  label_resolves : d.resolve (handleText (i + 1)) = .ok (.element (handleText (i + 1)))
  label_found : d.element? (handleText (i + 1)) = some label

/-- Every handle of a tree that was just mounted resolves. -/
theorem resolve_showing (d : Document) {t : Tree} {i : Nat} (hlow : d.nextHandle ≤ i)
    (hhigh : i < d.nextHandle + 2 * t.count) :
    (d.showing t).resolve (handleText i) = .ok (.element (handleText i)) := by
  have hmem : handleText i ∈ (d.showing t).handles := by
    apply List.mem_append_right
    apply List.mem_map_of_mem
    rw [List.mem_range'_1]
    exact ⟨hlow, hhigh⟩
  unfold resolve
  rw [List.contains_iff_mem.mpr hmem]
  rfl

theorem standsAt_showing (d : Document) {t : Tree} {k : Nat} {n : Tree} (hk : t.nodes[k]? = some n)
    (hkind : 0 ∉ n.kind) :
    (d.showing t).StandsAt n (d.nextHandle + 2 * k) (n.mounted dark (d.nextHandle + 2 * k))
      (n.mountedLabel (d.nextHandle + 2 * k + 1)) := by
  have hcontent : (d.showing t).content = [t.mounted dark d.nextHandle] := rfl
  have hcount := lt_count_of_getElem? hk
  exact {
    list_tag := by rcases n with ⟨kind, l, s, cs⟩; rfl
    list_attrs := by rw [attrs_mounted]; rfl
    label_first := by rcases n with ⟨kind, l, s, cs⟩; rfl
    label_tag := rfl
    label_attrs := rfl
    label_text := textContent_mountedLabel hkind _
    list_resolves := resolve_showing d (by omega) (by omega)
    list_found := element?_list hcontent hk
    label_resolves := resolve_showing d (by omega) (by omega)
    label_found := element?_label hcontent hk }

/-- Mounting what is written for a tree reads the tree back: the tree pane holds the markup of the
tree, with one handle on each element and nothing else, and the `k`-th node stands at the numbers
`2 * k` and `2 * k + 1` after the ones given before. -/
theorem mount_render_faithful {d d' : Document} {t : Tree} (hkinds : ∀ n ∈ t.nodes, 0 ∉ n.kind)
    (hmount : d.mount t.render = .ok d') :
    ∃ m, d'.content = [m] ∧ m.withoutHandles = t.markup.withoutEmptyTexts ∧
      m.elements.length = 2 * t.count ∧
      ∀ (k : Nat) (n : Tree), t.nodes[k]? = some n → ∃ list label,
        m.elements[2 * k]? = some list ∧ m.elements[2 * k + 1]? = some label ∧
        d'.StandsAt n (d.nextHandle + 2 * k) list label := by
  rcases mount_render_eq_ok.mp hmount with ⟨_, rfl⟩
  refine ⟨t.mounted dark d.nextHandle, rfl, withoutHandles_mounted hkinds _, ?_, ?_⟩
  · rw [elements_mounted, length_rows, length_nodes]
  · intro k n hk
    refine ⟨_, _, ?_, ?_, standsAt_showing d hk (hkinds n (List.mem_of_getElem? hk))⟩
    · rw [elements_mounted]
      exact rows_list dark d.nextHandle hk
    · rw [elements_mounted]
      exact rows_label dark d.nextHandle hk

/-- A tree whose kinds look like markup, or like nothing. -/
def hostileTree : Tree :=
  .node (utf8 "</li><b id=\"x\">&amp;\r") 0 (some ⟨0, 5⟩) [.node [] 1 none []]

theorem mount_render_faithful_hostileTree :
    ∃ m, (Document.empty.showing hostileTree).content = [m] ∧
      m.withoutHandles = hostileTree.markup.withoutEmptyTexts ∧ m.elements.length = 4 := by
  have hmount : Document.empty.mount hostileTree.render = .ok (Document.empty.showing hostileTree) :=
    mount_render_eq_ok.mpr ⟨by decide +kernel, rfl⟩
  rcases mount_render_faithful (by decide +kernel) hmount with ⟨m, hcontent, hmarkup, hlength, _⟩
  exact ⟨m, hcontent, hmarkup, hlength⟩

end Document

end SyntaxPlayground
