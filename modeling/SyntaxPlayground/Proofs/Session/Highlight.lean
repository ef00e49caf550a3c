import SyntaxPlayground.Proofs.Session.Event

/-!
# Highlights follow the pointer

A highlight is a name in the class list of a node's list, written and taken out again by the two hover
reactions. After any events on a tree that was parsed, the highlighted lists are those whose own label the
pointer came onto last and did not leave (`highlighted_are_hovered`). The step is `LitBy.after`: an event on
a label lights its own list or not, and an event on a list lights nothing.
-/

namespace SyntaxPlayground

namespace Session

open Document SyntaxPlayground.Tree Page

variable {s : Session} {t : Tree} {lit : Nat → Bool} {next : Nat} {source output : Text}

/-! ## Where the pointer is -/

/-- Whether an event brings the pointer onto its target or takes it off. -/
def pointer? (kind : Text) : Option Bool :=
  if kind = EventKind.mouseEnter then some true
  else if kind = EventKind.mouseLeave then some false
  else none

/-- Whether a step brings the pointer onto a label or takes it off. -/
def pointerOn? (label : Handle) (x : Step) : Option Bool :=
  match x.command with
  | .event kind target => if target = label then pointer? kind else none
  | _ => none

/-- The pointer is on a label: of the steps that brought it there or took it off, the last one brought
it. -/
def hovered (xs : List Step) (label : Handle) : Bool :=
  (xs.filterMap (pointerOn? label)).getLast?.getD false

theorem hovered_snoc (xs : List Step) {y : Step} {kind : Text} {target : Handle}
    (hy : y.command = .event kind target) (label : Handle) :
    hovered (xs ++ [y]) label =
      if target = label then (pointer? kind).getD (hovered xs label) else hovered xs label := by
  have hon : pointerOn? label y = if target = label then pointer? kind else none := by
    unfold pointerOn?
    rw [hy]
  unfold hovered
  rw [List.filterMap_append, List.filterMap_cons, List.filterMap_nil, hon]
  by_cases htarget : target = label
  · rw [if_pos htarget, if_pos htarget]
    cases pointer? kind with
    | none => simp only [List.append_nil, Option.getD_none]
    | some on => simp only [List.getLast?_concat, Option.getD_some]
  · simp only [if_neg htarget, List.append_nil]

theorem litAfter_apply (kind : Text) (lit : Nat → Bool) (number i : Nat) :
    litAfter (reactionTo kind) lit number i =
      if i = number then (pointer? kind).getD (lit i) else lit i := by
  unfold reactionTo pointer?
  split
  · rfl
  · split
    · rfl
    · simp only [litAfter, Option.getD_none, ite_self]

/-! ## The lights after every event -/

/-- The session shows a tree in which a list is lit just when the pointer is on its label. -/
def LitBy (s : Session) (t : Tree) (next : Nat) (source output : Text) (xs : List Step) : Prop :=
  ∃ lit, s.Displays t lit next source output ∧
    ∀ k < t.count, lit (next + 2 * k) = hovered xs (handleText (next + 2 * k + 1))

/-- The step is an event of a kind that pages know on one of the given elements. -/
def IsEventAmong (handles : List Handle) (y : Step) : Prop :=
  ∃ kind ∈ EventKind.all, ∃ target ∈ handles, y.command = .event kind target

/-- An event on the tree keeps the lights where the pointer is, and without a click the buffer stays. -/
theorem LitBy.after {xs : List Step} (h : LitBy s t next source output xs) (hopen : s.closed = false)
    {y : Step} (hy : IsEventAmong (handlesIn [t.mounted dark next]) y) :
    LitBy (s.after y) t next source output (xs ++ [y]) ∧
      (∃ handled, s.answer y = .ok (.event ((s.after y).feedback handled))) ∧
      ((∀ target, y.command ≠ .event EventKind.click target) →
        (s.after y).page.buffer = s.page.buffer) := by
  rcases h with ⟨lit, hdisplays, hlit⟩
  rcases y with ⟨compiler, now, command⟩
  rcases hy with ⟨kind, hkind, target, htarget, rfl⟩
  have hhovered := hovered_snoc xs (y := ⟨compiler, now, .event kind target⟩) rfl
  unfold answer Session.after
  rcases exists_of_mem_handlesIn htarget with ⟨j, n, hj, rfl | rfl⟩
  · -- the event is on a list, and no list is a label
    have hrun := hdisplays.event_list hopen hkind (lt_count_of_getElem? hj) compiler now
    rw [hrun]
    refine ⟨⟨lit, hdisplays.touched now, ?_⟩, ⟨0, rfl⟩, fun _ => rfl⟩
    intro k hk
    have hother : handleText (next + 2 * j) ≠ handleText (next + 2 * k + 1) := by
      intro heq
      have hnumber := handleText_injective heq
      omega
    rw [hhovered, if_neg hother, hlit k hk]
  · rcases hdisplays.event_label hopen hkind (lt_count_of_getElem? hj) compiler now with
      ⟨s', hrun, hreacted⟩
    rw [hrun]
    refine ⟨⟨_, hreacted.displays, ?_⟩, ⟨1, rfl⟩, ?_⟩
    · intro k hk
      rw [litAfter_apply, hhovered, hlit k hk]
      by_cases hkj : k = j
      · subst hkj
        rw [if_pos rfl, if_pos rfl]
      · -- the lights and the events of other nodes are their own
        have hlist : next + 2 * k ≠ next + 2 * j := by omega
        have hlabel : handleText (next + 2 * j + 1) ≠ handleText (next + 2 * k + 1) := by
          intro heq
          have hnumber := handleText_injective heq
          omega
        rw [if_neg hlist, if_neg hlabel]
    · intro hclick
      have hhover : reactionTo kind ≠ .pick := fun hpick =>
        hclick (handleText (next + 2 * j + 1)) (by rw [eq_click_of_reactionTo hkind hpick])
      rcases hreacted.buffer with ⟨n, _, hbuffer⟩
      exact hbuffer.trans (Buffer.reacted_of_ne hhover n.span)

/-- After any events on the tree the lights are where the pointer is. -/
theorem LitBy.afterAll {before : List Step} (h : LitBy s t next source output before)
    (hopen : s.closed = false) {xs : List Step}
    (hxs : ∀ y ∈ xs, IsEventAmong (handlesIn [t.mounted dark next]) y) :
    LitBy (s.afterAll xs) t next source output (before ++ xs) := by
  induction xs generalizing s before with
  | nil =>
    rw [List.append_nil]
    exact h
  | cons y xs ih =>
    have hstep := (h.after hopen (hxs y List.mem_cons_self)).1
    have hopenAfter := (closed_after s y).trans hopen
    have hrest := ih hstep hopenAfter fun z hz => hxs z (List.mem_cons_of_mem y hz)
    rw [List.append_assoc] at hrest
    exact hrest

/-- The highlighted elements are the lists with a label that the pointer is on. -/
theorem LitBy.highlighted {xs : List Step} (h : LitBy s t next source output xs) {d : Document}
    (hcontent : d.content = [t.mounted lit next]) :
    s.page.document.withClass Vocabulary.highlight = d.lists.filter fun list =>
      ∃ label ∈ handlesIn d.content, d.IsLabelOf label list ∧ hovered xs label := by
  rcases h with ⟨lit', hshown, hlit⟩
  exact (withClass_highlight hshown.shows.content).trans (map_filter_lit hcontent lit' hlit)

/-- While nothing is highlighted the tree pane holds the tree as it was mounted. -/
theorem LitBy.content_of_dark {xs : List Step} (h : LitBy s t next source output xs)
    (hnone : s.page.document.withClass Vocabulary.highlight = []) :
    s.page.document.content = [t.mounted dark next] := by
  rcases h with ⟨lit', hshown, _⟩
  have halike : LitAlike lit' dark next t.count := by
    rw [withClass_highlight hshown.shows.content, List.map_eq_nil_iff, List.filter_eq_nil_iff] at hnone
    intro k hk
    exact Bool.eq_false_iff.mpr (hnone _ (List.mem_range'.mpr ⟨k, hk, rfl⟩))
  rw [hshown.shows.content, mounted_congr t halike]

/-- Whatever a session went through before, after a parse that succeeded and any events on the elements it
mounted, the highlighted elements are the lists whose own label the pointer was brought onto last and not
taken off, in document order. Only clicks change the selection, and while nothing is highlighted the tree
pane is written as it was right after the parse. -/
theorem highlighted_are_hovered (id : Text) (unit : OffsetUnit) (start : Int) (before : List Step)
    {x : Step} {source : Text} {a : Answer} {s₀ s₁ : Session} {d : Document} {xs : List Step}
    (hs₀ : s₀ = (new id unit start).afterAll before) (hcommand : x.command = .parse source)
    (hanswer : s₀.answer x = .ok a) (hs₁ : s₁ = s₀.after x) (hd : d = s₁.page.document)
    (hxs : ∀ y ∈ xs, IsEventAmong (handlesIn d.content) y) :
    (handlesIn d.content).Nodup ∧
    (∀ list ∈ d.lists, ∃ label ∈ handlesIn d.content, d.IsLabelOf label list ∧
      ∀ other ∈ handlesIn d.content, d.IsLabelOf other list → other = label) ∧
    (∀ ys y, xs = ys ++ [y] → ∃ result, (s₁.afterAll ys).answer y = .ok (.event result) ∧
      result.highlighted = (d.lists.filter fun list =>
        ∃ label ∈ handlesIn d.content, d.IsLabelOf label list ∧ hovered xs label) ∧
      ((∀ target, y.command ≠ .event EventKind.click target) →
        result.selection = (s₁.afterAll ys).snapshot.selection ∧
        result.selected = (s₁.afterAll ys).snapshot.selected)) ∧
    ((s₁.afterAll xs).page.document.withClass Vocabulary.highlight = [] →
      (s₁.afterAll xs).snapshot.treeHtml = s₁.snapshot.treeHtml) := by
  have hsteady : s₀.Steady := by
    rw [hs₀]
    exact (blank_new id unit start).steady.afterAll before
  have hopen : s₁.closed = false := by
    rw [hs₁, closed_after, hs₀, closed_afterAll]
    rfl
  rcases shown_of_parse hsteady.1 hcommand hanswer with hblank | ⟨t, output, hdisplays⟩
  · -- without a tree there is nothing to send an event to
    rw [← hs₁] at hblank
    have hcontent : d.content = [] := by
      rw [hd]
      exact hblank.content
    have hnone : handlesIn d.content = [] := by
      rw [hcontent]
      rfl
    have hxs : xs = [] := by
      rw [List.eq_nil_iff_forall_not_mem]
      intro y hy
      rcases hxs y hy with ⟨kind, _, target, htarget, _⟩
      rw [hnone] at htarget
      exact List.not_mem_nil htarget
    subst hxs
    refine ⟨?_, ?_, ?_, fun _ => rfl⟩
    · rw [hnone]
      exact List.nodup_nil
    · intro list hlist
      rw [lists, hnone] at hlist
      exact absurd hlist List.not_mem_nil
    · intro ys y heq
      exact absurd heq.symm (List.append_ne_nil_of_right_ne_nil ys (List.cons_ne_nil y []))
  · rw [← hs₁] at hdisplays
    have hcontent : d.content = [t.mounted dark s₀.page.document.nextHandle] := by
      rw [hd]
      exact hdisplays.shows.content
    rw [hcontent] at hxs
    have hstart : LitBy s₁ t s₀.page.document.nextHandle source output [] :=
      ⟨dark, hdisplays, fun _ _ => rfl⟩
    refine ⟨?_, fun list hlist => exists_isLabelOf hcontent hlist, ?_, ?_⟩
    · rw [hcontent, handlesIn_mounted]
      exact nodup_map_handleText List.nodup_range'
    · rintro ys y rfl
      have hys := hstart.afterAll hopen fun z hz => hxs z (List.mem_append_left [y] hz)
      have hopenYs := (closed_afterAll s₁ ys).trans hopen
      have hlast := hys.after hopenYs (hxs y (List.mem_append_right ys List.mem_cons_self))
      rcases hlast with ⟨hlit, ⟨handled, hanswer⟩, hbuffer⟩
      refine ⟨_, hanswer, hlit.highlighted hcontent, ?_⟩
      intro hclick
      have hsame := hbuffer hclick
      exact ⟨congrArg Buffer.selection hsame, congrArg Buffer.selected hsame⟩
    · intro hnone
      have hdark := (hstart.afterAll hopen hxs).content_of_dark hnone
      simp only [snapshot, treeHtml, hdark, hdisplays.shows.content]

/-- The pointer comes onto an element. -/
def enter (compiler : Compiler) (now : Int) (h : Handle) : Step :=
  ⟨compiler, now, .event EventKind.mouseEnter h⟩

/-- The pointer comes onto the only label of a small tree, and clicks there; its list stays lit. -/
theorem highlighted_are_hovered_shownProgram : ∃ result,
    (shownProgram.afterAll [enter (.fixed [] [] []) 2 (handleText 1)]).answer
      (click (.fixed [] [] []) 3 (handleText 1)) = .ok (.event result) ∧
      result.highlighted = [handleText 0] := by
  rcases answer_parseProgram [] .rune 0 with ⟨a, hanswer⟩
  have hcontent := displays_shownProgram.shows.content
  have hmem : handleText 1 ∈ handlesIn shownProgram.page.document.content := by
    rw [hcontent]
    exact mem_handlesIn_mounted.mpr ⟨1, by decide, by decide, rfl⟩
  have hxs : ∀ y ∈ [enter (.fixed [] [] []) 2 (handleText 1)] ++ [click (.fixed [] [] []) 3 (handleText 1)],
      IsEventAmong (handlesIn shownProgram.page.document.content) y := by
    intro y hy
    rcases List.mem_append.mp hy with hy | hy
    · rw [List.mem_singleton.mp hy]
      exact ⟨_, List.mem_cons_self, _, hmem, rfl⟩
    · rw [List.mem_singleton.mp hy]
      exact ⟨_, by decide +kernel, _, hmem, rfl⟩
  have hevents := highlighted_are_hovered [] .rune 0 [] rfl rfl hanswer rfl rfl hxs
  rcases hevents.2.2.1 _ _ rfl with ⟨result, hresult, hhighlighted, _⟩
  refine ⟨result, hresult, hhighlighted.trans ?_⟩
  refine (map_filter_lit hcontent (fun _ => true) ?_).symm.trans ?_
  · intro k hk
    have hzero : k = 0 := Nat.lt_one_iff.mp hk
    rw [hzero]
    decide +kernel
  · rfl

end Session

end SyntaxPlayground
