import SyntaxPlayground.Proofs.Session.Step

/-!
# Sessions stay coherent

The source, the tree, the tree pane, the listeners and the view of a session are changed one by one by
every command, and still fit together after each. `traced_after` is the step: a session that shows no
tree, or a tree that an earlier step parsed, does so after the next step too. `coherent_afterAll` says
what this means for whole runs in which no tree fails to mount.
-/

namespace SyntaxPlayground

namespace Session

open Document SyntaxPlayground.Tree Page

variable {s₀ s : Session} {past : List Step} {t : Tree}

/-! ## Where a tree comes from -/

/-- The tree was shown by a step of the past, which parsed the source into the output, and no later
step replaced it. -/
def ComesFrom (s₀ : Session) (past : List Step) (t : Tree) (source output : Text) : Prop :=
  ∃ before x later, past = before ++ x :: later ∧ x.command = .parse source ∧
    x.compiler .parse source = .ok output ∧ (s₀.afterAll (before ++ [x])).tree = some t ∧
    Along Keeps (s₀.afterAll (before ++ [x])) later

/-- A step that replaces nothing leaves the origin of the tree as it was. -/
theorem ComesFrom.keep {source output : Text} (h : ComesFrom s₀ past t source output) {y : Step}
    (hkeeps : Keeps (s₀.afterAll past) y) : ComesFrom s₀ (past ++ [y]) t source output := by
  rcases h with ⟨before, x, later, rfl, hcommand, hcompiler, htree, hlater⟩
  refine ⟨before, x, later ++ [y], ?_, hcommand, hcompiler, htree, ?_⟩
  · rw [List.append_assoc, List.cons_append]
  · rw [along_append, ← afterAll_append, List.append_assoc, List.singleton_append]
    exact ⟨hlater, hkeeps, trivial⟩

/-- The session shows no tree, or one that a step of the past parsed. -/
def Traced (s₀ : Session) (past : List Step) : Prop :=
  (s₀.afterAll past).Blank ∨ ∃ t lit next source output,
    (s₀.afterAll past).Displays t lit next source output ∧ ComesFrom s₀ past t source output

theorem Traced.sound (h : Traced s₀ past) : (s₀.afterAll past).page.Sound := by
  rcases h with hblank | ⟨_, _, _, _, _, hdisplays, _⟩
  · exact hblank.sound
  · exact hdisplays.sound

/-! ## Steps and runs -/

theorem afterAll_snoc (s₀ : Session) (past : List Step) (x : Step) :
    s₀.afterAll (past ++ [x]) = (s₀.afterAll past).after x := by
  rw [afterAll_append]
  rfl

/-- A session stays traced through every step that does not fail to mount its tree. -/
theorem traced_after (h : Traced s₀ past) (x : Step) (hmounts : Mounts (s₀.afterAll past) x) :
    Traced s₀ (past ++ [x]) := by
  have hsnoc := afterAll_snoc s₀ past x
  unfold Traced
  rw [hsnoc]
  cases effect h.sound x with
  | kept time hkeeps hafter =>
    rw [hafter]
    rcases h with hblank | ⟨t, lit, next, source, output, hdisplays, hfrom⟩
    · exact Or.inl (hblank.touched time)
    · exact Or.inr ⟨t, lit, next, source, output, hdisplays.touched time, hfrom.keep hkeeps⟩
  | sent kind target hcommand hafter =>
    rw [hafter]
    rcases h with hblank | ⟨t, lit, next, source, output, hdisplays, hfrom⟩
    · -- a page without a tree reacts to no event
      have htouched := hblank.touched x.now
      rw [sendEvent_inert htouched.sound htouched.inert]
      exact Or.inl htouched
    · rcases (hdisplays.touched x.now).sendEvent kind target with ⟨lit', hdisplays'⟩
      have hkeeps : Keeps (s₀.afterAll past) x := Or.inr (Or.inl ⟨kind, target, hcommand⟩)
      exact Or.inr ⟨t, lit', next, source, output, hdisplays', hfrom.keep hkeeps⟩
  | blank hblank => exact Or.inl hblank
  | shown t source output hcommand hcompiler hdisplays =>
    have hfrom : ComesFrom s₀ (past ++ [x]) t source output := by
      refine ⟨past, x, [], rfl, hcommand, hcompiler, ?_, trivial⟩
      rw [hsnoc]
      exact hdisplays.tree
    exact Or.inr ⟨t, _, _, source, output, hdisplays, hfrom⟩
  | unmounted e hanswer _ _ => exact absurd hanswer (hmounts e)

/-- A session stays traced through every run in which no tree fails to mount. -/
theorem traced_afterAll (h : Traced s₀ past) (xs : List Step)
    (hmounts : Along Mounts (s₀.afterAll past) xs) : Traced s₀ (past ++ xs) := by
  induction xs generalizing past with
  | nil =>
    rw [List.append_nil]
    exact h
  | cons x xs ih =>
    -- the first step belongs to the past of the others
    have hstep := traced_after h x hmounts.1
    have hrest : Along Mounts (s₀.afterAll (past ++ [x])) xs := by
      rw [afterAll_snoc]
      exact hmounts.2
    have hall := ih hstep hrest
    rw [List.append_assoc, List.singleton_append] at hall
    exact hall

/-! ## Coherence -/

/-- The parts of a session fit together: the tree, the tree pane, the listeners, the view and, for a
session that went through the steps `xs` from `s₀`, the source. -/
structure Coherent (s₀ : Session) (xs : List Step) (s : Session) : Prop where
  tree_none : s.tree = none ↔ s.page.document.content = []
  nodes_count : s.snapshot.nodes = (s.tree.map Tree.count).getD 0
  nodes_labels : s.snapshot.nodes =
    ((Markup.elementsAll s.page.document.content).filter
      (·.attrs.hasClass Vocabulary.label)).length
  interactive : s.snapshot.interactive = true ↔ s.tree ≠ none
  listener_count : s.page.document.registry.count = 3 * s.snapshot.nodes
  /-- Oldest first, the listeners are the three of each label in the tree pane. -/
  listeners : (s.page.document.registry.listeners.map Prod.snd).reverse =
    (s.page.document.withClass Vocabulary.label).flatMap fun h =>
      [⟨.element h, EventKind.mouseEnter, .reaction .hoverIn⟩,
        ⟨.element h, EventKind.mouseLeave, .reaction .hoverOut⟩,
        ⟨.element h, EventKind.click, .reaction .pick⟩]
  /-- Every label has a handle of its own. -/
  labels : (s.page.document.withClass Vocabulary.label).Nodup ∧
    (s.page.document.withClass Vocabulary.label).length = s.snapshot.nodes
  /-- The labels with listeners are in the tree pane, and not among what was taken out of it. -/
  attached : ∀ h ∈ s.page.document.withClass Vocabulary.label,
    s.page.document.resolve h = .ok (.element h) ∧ h ∉ handlesIn s.page.document.detached
  shown : ∀ t, s.tree = some t → s.snapshot.view = utf8 "tree" ∧
    ofDump? s.snapshot.result = s.tree ∧
    ∃ source output, ComesFrom s₀ xs t source output ∧ s.snapshot.source = source

theorem Blank.coherent (h : s.Blank) (s₀ : Session) (xs : List Step) : Coherent s₀ xs s := by
  have hlabels : s.page.document.withClass Vocabulary.label = [] := by
    unfold withClass
    rw [h.content]
    rfl
  have hnodes : s.snapshot.nodes = 0 := by
    simp only [snapshot, h.tree, Option.map_none, Option.getD_none]
  have hinteractive : s.snapshot.interactive = false := by
    simp only [snapshot, isBound, h.inert.bound h.sound, List.isEmpty_nil, Bool.not_true]
  exact {
    tree_none := ⟨fun _ => h.content, fun _ => h.tree⟩
    nodes_count := rfl
    nodes_labels := by
      rw [hnodes, h.content]
      rfl
    interactive := by
      rw [hinteractive]
      exact ⟨fun hfalse => absurd hfalse Bool.false_ne_true, fun hne => absurd h.tree hne⟩
    listener_count := by
      unfold Registry.count
      rw [h.inert, hnodes]
      rfl
    listeners := by
      rw [h.inert, hlabels]
      rfl
    labels := by
      rw [hlabels, hnodes]
      exact ⟨List.Pairwise.nil, rfl⟩
    attached := by
      intro x hx
      rw [hlabels] at hx
      exact absurd hx List.not_mem_nil
    shown := by
      intro t ht
      rw [h.tree] at ht
      cases ht }

theorem length_flatMap_bindings (labels : List Handle) :
    (labels.flatMap bindings).length = 3 * labels.length := by
  induction labels with
  | nil => rfl
  | cons h labels ih =>
    rw [List.flatMap_cons, List.length_append, ih, List.length_cons]
    simp only [bindings, List.length_cons, List.length_nil]
    omega

theorem length_labelHandles (next count : Nat) : (labelHandles next count).length = count := by
  unfold labelHandles
  rw [List.length_map, List.length_range']

theorem Displays.count_listeners {lit : Nat → Bool} {next : Nat} {source output : Text}
    (h : s.Displays t lit next source output) : s.page.document.registry.count = 3 * t.count := by
  have hlength := congrArg List.length h.shows.listeners
  rw [List.length_reverse, List.length_map, length_flatMap_bindings, length_labelHandles] at hlength
  exact hlength

/-- A page that shows a tree is bound, because a tree has a node. -/
theorem Displays.isBound {lit : Nat → Bool} {next : Nat} {source output : Text}
    (h : s.Displays t lit next source output) : s.page.isBound = true := by
  have hbound : s.page.bound.length = 3 * t.count := by
    rw [h.sound.bound, List.length_map]
    exact h.count_listeners
  have hpos := t.count_pos
  simp only [Page.isBound, Bool.not_eq_true', List.isEmpty_eq_false_iff]
  intro hnil
  rw [hnil, List.length_nil] at hbound
  omega

theorem Displays.coherent {lit : Nat → Bool} {next : Nat} {source output : Text} {xs : List Step}
    (h : s.Displays t lit next source output) (hfrom : ComesFrom s₀ xs t source output) :
    Coherent s₀ xs s := by
  have hlabels := withClass_label h.shows.content
  have hnodes : s.snapshot.nodes = t.count := by
    simp only [snapshot, h.tree, Option.map_some, Option.getD_some]
  have hlisteners : (s.page.document.registry.listeners.map Prod.snd).reverse =
      (labelHandles next t.count).flatMap bindings := by
    rw [h.shows.listeners, List.reverse_reverse]
  have hcount := h.count_listeners
  have hinteractive : s.snapshot.interactive = true := h.isBound
  exact {
    tree_none := by
      rw [h.tree, h.shows.content]
      exact ⟨fun hnone => (Option.some_ne_none t hnone).elim, fun hnil => (List.cons_ne_nil _ _ hnil).elim⟩
    nodes_count := rfl
    nodes_labels := by
      rw [hnodes, h.shows.content, elementsAll_singleton, elements_mounted, length_filter_label,
        length_nodes]
    interactive := by
      rw [h.tree]
      exact ⟨fun _ => Option.some_ne_none t, fun _ => hinteractive⟩
    listener_count := by rw [hcount, hnodes]
    listeners := by
      rw [hlisteners, hlabels]
      rfl
    labels := by
      rw [hlabels, hnodes]
      exact ⟨nodup_labelHandles _ _, length_labelHandles _ _⟩
    attached := by
      intro x hx
      rw [hlabels] at hx
      rcases mem_labelHandles.mp hx with ⟨k, hk, rfl⟩
      constructor
      · -- the handles that resolve are those in the tree pane
        have hmem : handleText (next + 2 * k + 1) ∈ s.page.document.handles := by
          rw [h.sound.handles, h.shows.content, mem_handlesIn_mounted]
          exact ⟨_, by omega, by omega, rfl⟩
        unfold resolve
        rw [List.contains_iff_mem.mpr hmem]
        rfl
      · intro hdetached
        -- what is detached was numbered before the tree
        rcases h.shows.older _ hdetached with ⟨i, hi, heq⟩
        have hnumber := handleText_injective heq
        omega
    shown := by
      intro t' ht'
      have htree : t' = t := Option.some_inj.mp (ht'.symm.trans h.tree)
      rw [htree]
      refine ⟨?_, ?_, source, output, hfrom, h.text⟩
      · simp only [snapshot, h.mode]
        rfl
      · simp only [snapshot, h.result, h.dump, h.tree] }

/-- A session is coherent after every run of commands in which no tree fails to mount, whatever the
offsets count and whatever the compiler answers. -/
theorem coherent_afterAll (id : Text) (unit : OffsetUnit) (start : Int) (xs : List Step)
    (hmounts : Along Mounts (new id unit start) xs) :
    Coherent (new id unit start) xs ((new id unit start).afterAll xs) := by
  have hstart : Traced (new id unit start) [] := Or.inl (blank_new id unit start)
  have hend := traced_afterAll hstart xs hmounts
  rcases hend with hblank | ⟨t, lit, next, source, output, hdisplays, hfrom⟩
  · exact hblank.coherent _ _
  · exact hdisplays.coherent hfrom

/-- A tree of two nodes. -/
def twoNodes : Tree :=
  .node (utf8 "Program") 0 (some ⟨0, 2⟩) [.node (utf8 "Ident") 1 (some ⟨0, 1⟩) []]

theorem ofDump?_twoNodes : ofDump? (utf8 "Program @0..2\n  Ident @0..1") = some twoNodes :=
  rfl

/-- A click on the label of the first tree. -/
def clickProgram : Step :=
  ⟨.fixed [] [] [], 2, .event EventKind.click (handleText 1)⟩

def tokenizeSource : Step :=
  ⟨.fixed [] (utf8 "IDENT ab") [], 3, .tokenize (utf8 "ab")⟩

def parseTwoNodes : Step :=
  ⟨.fixed (utf8 "Program @0..2\n  Ident @0..1") [] [], 4, .parse (utf8 "ab")⟩

/-- A tree is shown, clicked on and replaced with tokens, and these with a larger tree. -/
def reparsing : List Step :=
  [parseProgram, clickProgram, tokenizeSource, parseTwoNodes]

/-- The first tree is there until the tokens are shown. At the end there is the second one, with three
listeners on each of its two labels. -/
theorem coherent_afterAll_reparsing :
    Along Mounts (new [] .rune 0) reparsing ∧
    ((new [] .rune 0).afterAll [parseProgram, clickProgram]).tree =
      some (.node (utf8 "Program") 0 (some ⟨0, 1⟩) []) ∧
    ((new [] .rune 0).afterAll [parseProgram, clickProgram, tokenizeSource]).tree = none ∧
    ((new [] .rune 0).afterAll reparsing).tree = some twoNodes ∧
    ((new [] .rune 0).afterAll reparsing).snapshot.nodes = 2 ∧
    ((new [] .rune 0).afterAll reparsing).page.document.registry.count = 6 ∧
    Coherent (new [] .rune 0) reparsing ((new [] .rune 0).afterAll reparsing) := by
  have hopen : ∀ xs, ((new [] .rune 0).afterAll xs).closed = false := closed_afterAll _
  have hkind : EventKind.click ∈ EventKind.all := by decide
  have htext : Operation.tokenize ≠ .parse := by decide
  have hlow : twoNodes.height ≤ maxHeight := by decide
  -- every step is answered, and says what the next one finds
  obtain ⟨hclick, lit, hclicked⟩ := displays_shownProgram.event_element (i := 1) (hopen [parseProgram])
    hkind (by decide) (by decide) (.fixed [] [] []) 2
  obtain ⟨htokenize, hblank⟩ := blank_of_text (x := tokenizeSource) htext hclicked.sound
    (hopen [parseProgram, clickProgram]) rfl rfl
  obtain ⟨hparse, htwo⟩ := displays_of_parse (x := parseTwoNodes) hblank.sound
    (hopen [parseProgram, clickProgram, tokenizeSource]) rfl rfl ofDump?_twoNodes hlow
  have hmounts : Along Mounts (new [] .rune 0) reparsing :=
    ⟨mounts_parseProgram [] .rune 0, mounts_of_ok hclick, mounts_of_ok htokenize, mounts_of_ok hparse,
      trivial⟩
  have hcoherent := coherent_afterAll [] .rune 0 reparsing hmounts
  have htree : ((new [] .rune 0).afterAll reparsing).tree = some twoNodes := htwo.tree
  have hnodes : ((new [] .rune 0).afterAll reparsing).snapshot.nodes = 2 := by
    rw [hcoherent.nodes_count, htree]
    rfl
  refine ⟨hmounts, hclicked.tree, hblank.tree, htree, hnodes, ?_, hcoherent⟩
  rw [hcoherent.listener_count, hnodes]

end Session

end SyntaxPlayground
