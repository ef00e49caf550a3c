import SyntaxPlayground.Markup.OfTree
import SyntaxPlayground.Proofs.Markup.Nesting
import SyntaxPlayground.Proofs.Tree.Shape

/-!
# The markup of a tree reads back

The text written for the markup of a tree, read again, gives that markup: the same elements in the
same places with the same attributes, whatever the kinds of the nodes look like. Only two things can
get lost, and both are text: NUL, and a text node with nothing (left) in it. `Markup.legible` is the
markup without them.

Reading fails for one reason only, a tree that is too high: each node opens one element inside the
other, its label one more, and one is there before. So `read_render` says exactly what reading gives.
-/

namespace SyntaxPlayground

/-! ## What can be read -/

namespace Markup

mutual

/-- What is left of a node when it is written and read again: text has no NUL, and there is no text
node without text. -/
def legible : Markup → List Markup
  | element space tag attrs children => [element space tag attrs (legibleAll children)]
  | text s => if (s.filter (· ≠ 0)).isEmpty then [] else [text (s.filter (· ≠ 0))]
  | comment s => [comment s]

/-- What is left of some siblings. -/
def legibleAll : List Markup → List Markup
  | [] => []
  | m :: ms => legible m ++ legibleAll ms

end

end Markup

namespace Sketch

/-- Siblings are finished one by one. -/
theorem markupAll_eq (after : List Markup) (ss : List Sketch) :
    markupAll after ss = (ss.map markup).reverse ++ after := by
  induction ss generalizing after with
  | nil => rfl
  | cons s ss ih => rw [markupAll, ih]; simp

end Sketch

/-! ## What is written -/

namespace Markup

/-- An element that has content, in which text is escaped and a first newline is kept. -/
structure IsOrdinary (tag : Text) : Prop where
  notVoid : tag ∉ voidTags
  noNewline : tag ∉ newlineTags
  notVerbatim : tag ∉ verbatimTags
  closed : tag ≠ plaintextTag

theorem isOrdinary_listTag : IsOrdinary Builder.listTag :=
  ⟨by decide +kernel, by decide +kernel, by decide +kernel, by decide +kernel⟩

theorem isOrdinary_itemTag : IsOrdinary Builder.itemTag :=
  ⟨by decide +kernel, by decide +kernel, by decide +kernel, by decide +kernel⟩

/-- An ordinary element is written as its tags around what is written for its children. -/
theorem written_element {tag : Text} (htag : IsOrdinary tag) (verbatim : Bool) (attrs : Attributes)
    {children : List Markup} {content : Text}
    (hcontent : writtenAll false children = ⟨content, true⟩) :
    written verbatim (element .html tag attrs children) =
      ⟨openingText tag attrs ++ content ++ closingText tag, true⟩ := by
  have hverbatim : isVerbatim .html tag = false := by
    simp [isVerbatim, htag.notVerbatim]
  simp [written, htag.notVoid, htag.noNewline, htag.closed, hverbatim, hcontent, Written.andThen,
    openingText, closingText]

end Markup

namespace Tree

open Builder Markup

/-- The attributes of a label. -/
def labelAttributes : Attributes :=
  [⟨Vocabulary.classAttr, Vocabulary.label⟩]

/-- What is written for the label of a node. -/
def labelText (t : Tree) : Text :=
  openingText itemTag labelAttributes ++ t.label.escaped ++ closingText itemTag

theorem written_labelItem (t : Tree) : written false t.labelItem = ⟨t.labelText, true⟩ := by
  apply written_element isOrdinary_itemTag
  simp [writtenAll, written, Written.andThen]

theorem writtenAll_markupAll {cs : List Tree}
    (h : ∀ c ∈ cs, written false c.markup = ⟨c.render, true⟩) :
    writtenAll false (markupAll cs) = ⟨cs.flatMap render, true⟩ := by
  induction cs with
  | nil => rfl
  | cons c cs ih =>
    have hhead := h c List.mem_cons_self
    have htail := ih fun x hx => h x (List.mem_cons_of_mem c hx)
    rw [markupAll, writtenAll, hhead, htail]
    rfl

theorem written_node (k : Text) (l : Nat) (s : Option Span) {cs : List Tree}
    (h : ∀ c ∈ cs, written false c.markup = ⟨c.render, true⟩) :
    written false (node k l s cs).markup = ⟨openingText listTag (listAttributes s) ++
      ((node k l s cs).labelText ++ cs.flatMap render) ++ closingText listTag, true⟩ := by
  apply written_element isOrdinary_listTag
  rw [writtenAll, written_labelItem, writtenAll_markupAll h]
  rfl

/-- The markup of a tree is written to its end. -/
theorem written_markup (t : Tree) : written false t.markup = ⟨t.render, true⟩ := by
  induction t using induct with
  | step k l s cs ih =>
    unfold render write
    rw [written_node k l s ih]

/-- What is written for a node: its tags around its label and its children. -/
theorem render_node (k : Text) (l : Nat) (s : Option Span) (cs : List Tree) :
    (node k l s cs).render = openingText listTag (listAttributes s) ++
      ((node k l s cs).labelText ++ cs.flatMap render) ++ closingText listTag := by
  have hnode := written_node k l s fun c (_ : c ∈ cs) => written_markup c
  unfold render write
  rw [hnode]
  rfl

/-! ## What is read -/

theorem isName_listAttributes (s : Option Span) :
    ∀ a ∈ listAttributes s, MarkupReader.IsName a.name := by
  have hnames : ∀ n ∈ (listAttributes s).map Attribute.name, MarkupReader.IsName n := by
    have hmap : (listAttributes s).map Attribute.name =
        [Vocabulary.classAttr, Vocabulary.start, Vocabulary.stop] := rfl
    rw [hmap]
    decide +kernel
  intro a ha
  exact hnames a.name (List.mem_map_of_mem ha)

theorem isName_labelAttributes : ∀ a ∈ labelAttributes, MarkupReader.IsName a.name := by
  decide +kernel

theorem isTagName_itemTag : MarkupReader.IsTagName itemTag := by decide +kernel

theorem isTagName_listTag : MarkupReader.IsTagName listTag := by decide +kernel

theorem itemTag_not_raw : itemTag ∉ rawTags := by decide +kernel

theorem listTag_not_raw : listTag ∉ rawTags := by decide +kernel

/-- The label of a node, read right inside its list. -/
theorem reads_label (t : Tree) {number : Nat} {attrs : Attributes} {done : List Sketch}
    {above : List Frame} {next : Nat}
    (h : Nested (frame number listTag attrs done) above next) (deepest : Nat) :
    ∃ s, [s.markup] = t.labelItem.legible ∧
      MarkupReader.Reads
        ⟨.text [], nested (frame number listTag attrs done) above next deepest⟩ t.labelText
        ⟨.text [], nested (frame number listTag attrs (s :: done)) above (next + 1)
          (max deepest (above.length + 2))⟩ := by
  have hnested := h.open itemTag labelAttributes (by rw [role_itemTag]; decide)
  refine ⟨(frame next itemTag labelAttributes (textSketches t.label)).sketch, ?_, ?_⟩
  · simp only [labelItem, legible, legibleAll, List.append_nil, Frame.sketch, Frame.withChildren, frame,
      OpenElement.ofTag, Sketch.markup, Sketch.markupAll_eq, textSketches]
    by_cases hempty : (t.label.filter (· ≠ 0)).isEmpty = true
    · simp only [hempty, if_true]
      rfl
    · simp only [hempty, Bool.false_eq_true, if_false, List.map_cons, List.map_nil, Sketch.markup]
      simp [labelAttributes, itemTag]
  · have hopen := MarkupReader.reads_opening [] isTagName_itemTag itemTag_not_raw
      isName_labelAttributes (read_item h deepest labelAttributes) (Nat.le_refl _)
      (Nat.le_max_left _ _)
    have htext := MarkupReader.reads_text (fun b hb => (Text.mem_escaped_clean hb).2.2) []
      (nested (frame next itemTag labelAttributes [])
        ((frame number listTag attrs done) :: above) (next + 1)
        (max deepest (above.length + 2))) (s := t.label.escaped)
    rw [List.append_nil] at htext
    have htake := takeText_item hnested (max deepest (above.length + 2)) t.label
    refine (hopen.trans htext).trans ?_
    apply MarkupReader.reads_closing _ isTagName_itemTag
    · rw [htake]
      exact read_end_item _ _ _ _
    · rw [htake]
      exact Nat.le_refl _
    · rw [htake]
      exact Nat.le_refl _

/-- A tree reads back if its text, read at the end of any open element, adds what is left of its
markup there. -/
def ReadsBack (t : Tree) : Prop :=
  ∀ {f : Frame} {above : List Frame} {next : Nat}, Nested f above next → ∀ deepest : Nat,
    ∃ s next', next ≤ next' ∧ [s.markup] = t.markup.legible ∧
      MarkupReader.Reads ⟨.text [], nested f above next deepest⟩ t.render
        ⟨.text [], nested (f.add s) above next' (max deepest (above.length + 2 + t.height))⟩

/-- Siblings read back one after the other. They are read after a label, so that an element was open
inside the current one before. -/
theorem reads_children {cs : List Tree} (h : ∀ c ∈ cs, ReadsBack c) :
    ∀ {f : Frame} {above : List Frame} {next : Nat}, Nested f above next → ∀ deepest : Nat,
      above.length + 2 ≤ deepest → ∃ done next', next ≤ next' ∧
        (done.map Sketch.markup).reverse =
          (f.done.map Sketch.markup).reverse ++ legibleAll (markupAll cs) ∧
        MarkupReader.Reads ⟨.text [], nested f above next deepest⟩ (cs.flatMap render)
          ⟨.text [], nested ⟨f.element, done⟩ above next'
            (max deepest (above.length + 2 + heightAll cs))⟩ := by
  induction cs with
  | nil =>
    intro f above next _ deepest hdeep
    refine ⟨f.done, next, Nat.le_refl _, ?_, ?_⟩
    · simp [markupAll, legibleAll]
    · -- without children no more than before are open
      have hmax : max deepest (above.length + 2 + heightAll []) = deepest := by
        simp only [heightAll]
        omega
      rw [hmax]
      exact MarkupReader.Reads.refl _
  | cons c cs ih =>
    intro f above next hf deepest hdeep
    rcases h c List.mem_cons_self hf deepest with ⟨sk, next₁, hnext₁, hsk, hreads₁⟩
    rcases ih (fun x hx => h x (List.mem_cons_of_mem c hx)) (hf.mono hnext₁ (sk :: f.done))
      (max deepest (above.length + 2 + c.height)) (Nat.le_trans hdeep (Nat.le_max_left _ _)) with
      ⟨done, next₂, hnext₂, hdone, hreads₂⟩
    refine ⟨done, next₂, Nat.le_trans hnext₁ hnext₂, ?_, ?_⟩
    · rw [hdone, markupAll, legibleAll, ← hsk]
      simp
    · have hmax : max (max deepest (above.length + 2 + c.height))
          (above.length + 2 + heightAll cs) =
          max deepest (above.length + 2 + heightAll (c :: cs)) := by
        simp only [heightAll]
        omega
      rw [hmax] at hreads₂
      exact hreads₁.trans hreads₂

/-- Every tree reads back. -/
theorem readsBack (t : Tree) : ReadsBack t := by
  induction t using induct with
  | step k l s cs ih =>
    intro f above next hf deepest
    -- the opening tag, the label, the children and the closing tag are read in turn
    have hlist := hf.open listTag (listAttributes s) (by rw [role_listTag]; decide)
    have hopen := MarkupReader.reads_opening [] isTagName_listTag listTag_not_raw
      (isName_listAttributes s) (read_list hf deepest (listAttributes s)) (Nat.le_refl _)
      (Nat.le_max_left _ _)
    rcases reads_label (node k l s cs) hlist (max deepest (above.length + 2)) with
      ⟨label, hlabel, hreadsLabel⟩
    rcases reads_children ih (hlist.mono (Nat.le_succ (next + 1)) [label])
      (max (max deepest (above.length + 2)) ((f :: above).length + 2)) (Nat.le_max_right _ _) with
      ⟨done, next', hnext', hdone, hreadsChildren⟩
    refine ⟨(frame next listTag (listAttributes s) done).sketch, next', by omega, ?_, ?_⟩
    · have hmarkup : (node k l s cs).markup = .element .html listTag (listAttributes s)
          (labelItem (node k l s cs) :: markupAll cs) := rfl
      rw [hmarkup, legible, legibleAll, ← hlabel]
      simp only [Frame.sketch, Frame.withChildren, frame, OpenElement.ofTag, Sketch.markup,
        Sketch.markupAll_eq, List.append_nil, hdone]
      rfl
    · have hmax : max (max (max deepest (above.length + 2)) ((f :: above).length + 2))
          ((f :: above).length + 2 + heightAll cs) =
          max deepest (above.length + 2 + (node k l s cs).height) := by
        simp only [height, List.length_cons]
        omega
      rw [hmax] at hreadsChildren
      rw [render_node]
      refine (hopen.trans (hreadsLabel.trans hreadsChildren)).trans ?_
      exact MarkupReader.reads_closing [] isTagName_listTag (read_end_list f above next' _)
        (Nat.le_refl _) (Nat.le_refl _)

/-! ## Whole texts -/

/-- The greatest height of a tree that can be shown: the element around the fragment and the label of
the lowest node are open too. -/
def maxHeight : Nat := maxOpen - 2

/-- The builder that has read nothing yet. -/
theorem nested_empty : nested ⟨outermost, []⟩ [] 1 1 = Builder.empty := rfl

theorem nested_outermost : Nested ⟨outermost, []⟩ [] 1 := by
  constructor
  · intro g hg
    rcases List.mem_singleton.mp hg with rfl
    exact ⟨rfl, by decide +kernel, Nat.zero_lt_one⟩
  · intro g hg
    exact absurd hg List.not_mem_nil

/-- Reading what is written for a tree gives its markup, unless the tree is too high. -/
theorem read_render (t : Tree) :
    Markup.read t.render =
      if t.height ≤ maxHeight then .ok t.markup.legible else .error .tooDeep := by
  rcases readsBack t nested_outermost 1 with ⟨s, next, _, hs, hreads⟩
  have hrun := hreads.run_append (by decide) []
  rw [List.append_nil, nested_empty] at hrun
  unfold Markup.read
  rw [hrun]
  have hdeepest : (nested (Frame.add ⟨outermost, []⟩ s) [] next
      (max 1 (([] : List Frame).length + 2 + t.height))).deepest = 2 + t.height := by
    simp only [nested, List.length_nil]
    omega
  by_cases hheight : t.height ≤ maxHeight
  · have hopen : ¬ maxOpen < 2 + t.height := by
      unfold maxHeight maxOpen at hheight
      unfold maxOpen
      omega
    rw [if_pos hheight, hdeepest, if_neg hopen, ← hs]
    -- no text is left in the lexer, and the outermost element holds the tree alone
    simp only [MarkupReader.run, LexState.finish, LexState.textToken, List.isEmpty_nil, if_true,
      List.foldl_nil, hdeepest, hopen, if_false]
    rfl
  · have hopen : maxOpen < 2 + t.height := by
      unfold maxHeight maxOpen at hheight
      unfold maxOpen
      omega
    rw [if_neg hheight, hdeepest, if_pos hopen]
    rfl

end Tree

end SyntaxPlayground
