import SyntaxPlayground.Proofs.Dump.Outline
import SyntaxPlayground.Proofs.Editor.Slice
import SyntaxPlayground.Proofs.Session.Step

/-!
# A click selects the span of its node

The span of a node goes a long way before a click selects it: as decimal numbers from the dump into the
tree, from there into attributes of the markup, and back into numbers when a label is clicked. Nothing
is lost on the way, so a click on the label of a node selects the node's span in the source, if it has
one that fits (`click_selects_span`), and changes nothing else.
-/

namespace SyntaxPlayground

namespace Page

open Document SyntaxPlayground.Tree

variable {p : Page} {t : Tree} {lit : Nat → Bool} {next : Nat}

/-! ## Picking a node -/

theorem Shows.attr?_start (h : p.Shows t lit next) {k : Nat} {n : Tree} (hk : t.nodes[k]? = some n) :
    p.document.attr? (.element (handleText (next + 2 * k))) Vocabulary.start =
      some (spanValues n.span).1 := by
  unfold attr?
  rw [attrs?_list h.content hk]
  rfl

theorem Shows.attr?_stop (h : p.Shows t lit next) {k : Nat} {n : Tree} (hk : t.nodes[k]? = some n) :
    p.document.attr? (.element (handleText (next + 2 * k))) Vocabulary.stop =
      some (spanValues n.span).2 := by
  unfold attr?
  rw [attrs?_list h.content hk]
  rfl

theorem ofNat_ne_noSpan (n : Nat) : Text.ofNat n ≠ Vocabulary.noSpan := by
  intro heq
  have hletter : (117 : UInt8) ∈ Vocabulary.noSpan := by decide +kernel
  rw [← heq] at hletter
  have hdigit := Text.isDigit_of_mem_ofNat hletter
  revert hdigit
  decide

/-- Picking the list of a node selects the span of the node, if it has one. -/
theorem Shows.pick_list (h : p.Shows t lit next) {k : Nat} {n : Tree} (hk : t.nodes[k]? = some n)
    (hrange : ∀ s, n.span = some s → s.InRange) :
    p.pick (.element (handleText (next + 2 * k))) =
      match n.span with
      | none => p
      | some s => p.selectSpan s.start s.stop := by
  have hstart := h.attr?_start hk
  have hstop := h.attr?_stop hk
  unfold Page.pick
  rw [hstart, hstop]
  cases hspan : n.span with
  | none => simp [spanValues]
  | some s =>
    have hs := hrange s hspan
    -- both offsets are written without a sign and fit a word, so they read back
    have hstopNonneg : 0 ≤ s.stop := Int.le_trans hs.nonneg hs.ordered
    have hvalues : spanValues (some s) = (Text.ofNat s.start.toNat, Text.ofNat s.stop.toNat) := by
      simp only [spanValues, Text.ofInt_of_nonneg hs.nonneg, Text.ofInt_of_nonneg hstopNonneg]
    have hfits := hs.fits
    have hordered := hs.ordered
    have hreadStart := Text.readInt?_ofNat (n := s.start.toNat) (by omega)
    have hreadStop := Text.readInt?_ofNat (n := s.stop.toNat) (by omega)
    rw [Int.toNat_of_nonneg hs.nonneg] at hreadStart
    rw [Int.toNat_of_nonneg hstopNonneg] at hreadStop
    simp only [hvalues, Option.getD_some, ofNat_ne_noSpan, Text.ofNat_ne_nil, or_self, if_false,
      hreadStart, hreadStop]

theorem selectSpan_of_le {a b : Int} (ha : 0 ≤ a) (hab : a ≤ b) (hb : b ≤ p.buffer.length) :
    p.selectSpan a b =
      { p with buffer := { p.buffer with selection := ⟨a.toNat, b.toNat⟩ } } := by
  have hin : ¬ (a < 0 ∨ b < a ∨ (p.buffer.length : Int) < b) := by omega
  unfold selectSpan Buffer.select
  rw [if_neg hin]

theorem selectSpan_of_lt {a b : Int} (hb : (p.buffer.length : Int) < b) :
    p.selectSpan a b = p.note .selectionRejected := by
  have hout : a < 0 ∨ b < a ∨ (p.buffer.length : Int) < b := Or.inr (Or.inr hb)
  unfold selectSpan Buffer.select
  rw [if_pos hout]

end Page

namespace Session

open Document SyntaxPlayground.Tree Page

variable {s : Session} {t : Tree} {lit : Nat → Bool} {next : Nat} {source output : Text}

/-! ## Clicking -/

/-- The step that clicks on an element. -/
def click (compiler : Compiler) (now : Int) (h : Handle) : Step :=
  ⟨compiler, now, .event EventKind.click h⟩

/-- What a click on the label of a node does. -/
theorem Displays.run_click_label (h : s.Displays t lit next source output) (hopen : s.closed = false)
    {k : Nat} {n : Tree} (hk : t.nodes[k]? = some n) (compiler : Compiler) (now : Int) :
    s.run compiler now (.event EventKind.click (handleText (next + 2 * k + 1))) =
      (.ok (.event {
        handled := 1
        selection := (s.page.pick (.element (handleText (next + 2 * k)))).buffer.selection
        selected := (s.page.pick (.element (handleText (next + 2 * k)))).buffer.selected
        highlighted := s.page.document.withClass Vocabulary.highlight }),
        { s.touched now with page := s.page.pick (.element (handleText (next + 2 * k))) }) := by
  have hlt := lt_count_of_getElem? hk
  have htouched := h.touched now
  have hkind : EventKind.click ∈ EventKind.all := by decide +kernel
  have hevent := htouched.eventTo_handle hkind (i := next + 2 * k + 1) (by omega) (by omega)
  have hreaction : reactionTo EventKind.click = .pick := by decide +kernel
  have hdispatch := htouched.shows.dispatch_label htouched.sound hkind hlt
  have hreact : (s.touched now).page.react .pick
      ⟨EventKind.click, .element (handleText (next + 2 * k + 1))⟩ =
      s.page.pick (.element (handleText (next + 2 * k))) := by
    unfold Page.react
    rw [htouched.shows.enclosing?_label hk]
    rfl
  rw [hreaction, hreact] at hdispatch
  have hdocument : (s.page.pick (.element (handleText (next + 2 * k)))).document =
      s.page.document := by
    rcases pick_frame s.page (.element (handleText (next + 2 * k))) with ⟨selection, log, hpick⟩
    rw [hpick]
  rw [run_event hopen, sendEvent_ok hevent, hdispatch]
  simp only [feedback, hdocument]

/-! ## What a click selects -/

/-- A click on the label of a node ran one listener. It selected the span of the node, if there is one
that lies in the source, and otherwise left the selection as it was. -/
structure Picks (unit : OffsetUnit) (source : Text) (n : Tree) (old : Snapshot) (r : EventResult) :
    Prop where
  handled : r.handled = 1
  fits : ∀ span, n.span = some span → span.stop ≤ unit.measure source →
    (r.selection.anchor : Int) = span.start ∧ (r.selection.head : Int) = span.stop ∧
      r.selected = unit.slice source r.selection.anchor r.selection.head
  otherwise : (n.span = none ∨ ∃ span, n.span = some span ∧ unit.measure source < span.stop) →
    r.selection = old.selection ∧ r.selected = old.selected

theorem Displays.picks (h : s.Displays t lit next source output) {k : Nat} {n : Tree}
    (hk : t.nodes[k]? = some n) (highlighted : List Handle) :
    Picks s.page.buffer.unit source n s.snapshot {
      handled := 1
      selection := (s.page.pick (.element (handleText (next + 2 * k)))).buffer.selection
      selected := (s.page.pick (.element (handleText (next + 2 * k)))).buffer.selected
      highlighted := highlighted } := by
  have hrange := (isDumpable_of_ofDump? h.dump).spans n (List.mem_of_getElem? hk)
  have hpick := h.shows.pick_list hk hrange
  have hlength : s.page.buffer.length = s.page.buffer.unit.measure source := by
    unfold Buffer.length
    rw [h.text]
  refine ⟨rfl, ?_, ?_⟩
  · intro span hspan hfits
    have hs := hrange span hspan
    have hstop : 0 ≤ span.stop := Int.le_trans hs.nonneg hs.ordered
    rw [← hlength] at hfits
    rw [hspan] at hpick
    simp only at hpick
    rw [selectSpan_of_le hs.nonneg hs.ordered hfits] at hpick
    simp only [hpick]
    refine ⟨Int.toNat_of_nonneg hs.nonneg, Int.toNat_of_nonneg hstop, ?_⟩
    rw [Buffer.selected_eq_slice _ (Int.toNat_le_toNat hs.ordered)]
    simp only [h.text]
  · intro hnone
    have hsame : (s.page.pick (.element (handleText (next + 2 * k)))).buffer = s.page.buffer := by
      rcases hnone with hspan | ⟨span, hspan, hbeyond⟩
      · rw [hpick, hspan]
      · rw [← hlength] at hbeyond
        rw [hpick, hspan]
        simp only
        rw [selectSpan_of_lt hbeyond]
        rfl
    simp only [hsame]
    exact ⟨rfl, rfl⟩

/-- What an event or a snapshot can do. -/
theorem after_of_observing (s : Session) {y : Step}
    (hy : y.command = .snapshot ∨ ∃ kind x, y.command = .event kind x) :
    (∃ time, s.after y = s.touched time) ∨
      ∃ kind x, s.after y = ((s.touched y.now).sendEvent kind x).2 := by
  cases outcome s y with
  | kept time _ hafter => exact Or.inl ⟨time, hafter⟩
  | sent kind x _ hrun => exact Or.inr ⟨kind, x, congrArg Prod.snd hrun⟩
  | parsed _ _ hcommand _ _ =>
    rw [hcommand] at hy
    rcases hy with hy | ⟨kind, x, hy⟩ <;> cases hy
  | texted _ _ hcommand _ =>
    rcases hcommand with hcommand | hcommand <;> rw [hcommand] at hy <;>
      rcases hy with hy | ⟨kind, x, hy⟩ <;> cases hy
  | sampled _ _ hcommand _ =>
    rw [hcommand] at hy
    rcases hy with hy | ⟨kind, x, hy⟩ <;> cases hy

/-- Events and snapshots leave a shown tree as it is. -/
theorem Displays.afterAll (h : s.Displays t lit next source output) {later : List Step}
    (hlater : ∀ y ∈ later, y.command = .snapshot ∨ ∃ kind x, y.command = .event kind x) :
    ∃ lit', (s.afterAll later).Displays t lit' next source output := by
  induction later generalizing s lit with
  | nil => exact ⟨lit, h⟩
  | cons y later ih =>
    have hy := hlater y List.mem_cons_self
    have hrest : ∀ z ∈ later, z.command = .snapshot ∨ ∃ kind x, z.command = .event kind x :=
      fun z hz => hlater z (List.mem_cons_of_mem y hz)
    have hstep : ∃ lit', (s.after y).Displays t lit' next source output := by
      rcases after_of_observing s hy with ⟨time, hafter⟩ | ⟨kind, x, hafter⟩
      · rw [hafter]
        exact ⟨lit, h.touched time⟩
      · rw [hafter]
        exact (h.touched y.now).sendEvent kind x
    -- the nodes that are lit may be others now, so the induction is over all of them
    rcases hstep with ⟨lit', hdisplays⟩
    exact ih hdisplays hrest

/-- A parse that mounts the tree of its dump shows it. -/
theorem displays_after {x : Step} (hsound : s.page.Sound) (hopen : s.closed = false)
    (hcommand : x.command = .parse source) (hcompiler : x.compiler .parse source = .ok output)
    (hdump : ofDump? output = some t) (hmounts : Mounts s x) :
    (s.after x).Displays t dark s.page.document.nextHandle source output := by
  by_cases hheight : t.height ≤ maxHeight
  · exact (displays_of_parse hsound hopen hcommand hcompiler hdump hheight).2
  · -- a higher tree would not have been mounted
    have htouched : (s.touched x.now).page.Sound := hsound
    exfalso
    apply hmounts (.badMarkup .tooDeep)
    rw [answer, run_asking .parse hopen hcommand hcompiler]
    exact (showParse_tooHigh htouched source hdump hheight).1

/-- Whatever a session went through before, once a parse has mounted the tree of its dump and only
events and snapshots came after it, a click on the label of a node selects the span of the node and
changes nothing else, and a click on a list changes nothing at all. -/
theorem click_selects_span (id : Text) (unit : OffsetUnit) (start : Int) (before : List Step)
    {x : Step} {source output : Text} {t : Tree} {later : List Step} {s₀ s : Session}
    (hs₀ : s₀ = (new id unit start).afterAll before) (hcommand : x.command = .parse source)
    (hcompiler : x.compiler .parse source = .ok output) (hdump : ofDump? output = some t)
    (hmounts : Mounts s₀ x)
    (hlater : ∀ y ∈ later, y.command = .snapshot ∨ ∃ kind h, y.command = .event kind h)
    (hs : s = (s₀.after x).afterAll later) (compiler : Compiler) (now : Int) :
    (∀ (k : Nat) (n : Tree), t.nodes[k]? = some n → ∃ label result,
      (s.page.document.withClass Vocabulary.label)[k]? = some label ∧
      label = handleText (s₀.page.document.nextHandle + 2 * k + 1) ∧
      s.answer (click compiler now label) = .ok (.event result) ∧
      Picks unit source n s.snapshot result ∧
      (s.after (click compiler now label)).snapshot =
        { s.snapshot with selection := result.selection, selected := result.selected } ∧
      (s.after (click compiler now label)).page.document = s.page.document ∧
      (s.after (click compiler now label)).tree = s.tree) ∧
    ∀ h, s.page.document.resolve h = .ok (.element h) →
      s.page.document.tag? (.element h) = some (utf8 "ul") →
      (∃ result, s.answer (click compiler now h) = .ok (.event result) ∧ result.handled = 0 ∧
        result.selection = s.snapshot.selection ∧ result.selected = s.snapshot.selected) ∧
      s.after (click compiler now h) = s.touched now := by
  -- whatever came before, the parse shows the tree, and what came later keeps it
  have hsteady : s₀.Steady := by
    rw [hs₀]
    exact (blank_new id unit start).steady.afterAll before
  have hsettings₀ : s₀.settings = (id, unit, false) := by
    rw [hs₀, settings_afterAll]
    rfl
  have hopen₀ : s₀.closed = false := congrArg (fun c => c.2.2) hsettings₀
  have hdisplays₀ := displays_after hsteady.1 hopen₀ hcommand hcompiler hdump hmounts
  rcases hdisplays₀.afterAll hlater with ⟨lit, hdisplays⟩
  rw [← hs] at hdisplays
  have hsettings : s.settings = (id, unit, false) := by
    rw [hs, settings_afterAll, settings_after, hsettings₀]
  have hopen : s.closed = false := congrArg (fun c => c.2.2) hsettings
  have hunit : s.page.buffer.unit = unit := congrArg (fun c => c.2.1) hsettings
  constructor
  · intro k n hk
    have hrun := hdisplays.run_click_label hopen hk compiler now
    have hpicks := hdisplays.picks hk (s.page.document.withClass Vocabulary.highlight)
    rw [hunit] at hpicks
    rcases pick_frame s.page (.element (handleText (s₀.page.document.nextHandle + 2 * k))) with
      ⟨selection, log, hpick⟩
    refine ⟨_, _, ?_, rfl, congrArg Prod.fst hrun, hpicks, ?_, ?_, ?_⟩
    · rw [withClass_label hdisplays.shows.content]
      exact getElem?_labelHandles (lt_count_of_getElem? hk)
    · unfold Session.after click
      rw [hrun]
      simp only [hpick]
      rfl
    · unfold Session.after click
      rw [hrun]
      simp only [hpick]
    · unfold Session.after click
      rw [hrun]
      rfl
  · intro h hresolve htag
    rcases hdisplays.shows.exists_of_resolve hdisplays.sound hresolve with ⟨_, k, n, hk, hx⟩
    have hlt := lt_count_of_getElem? hk
    rcases hx with rfl | rfl
    · have hrun := hdisplays.event_list hopen (by decide +kernel : EventKind.click ∈ EventKind.all) hlt
        compiler now
      refine ⟨⟨_, congrArg Prod.fst hrun, rfl, rfl, rfl⟩, congrArg Prod.snd hrun⟩
    · exfalso
      -- labels are items
      have hlabel := tag?_label hdisplays.shows.content hk
      have hdifferent : some (utf8 "li") ≠ some (utf8 "ul") := by decide +kernel
      exact hdifferent (hlabel.symm.trans htag)

/-- Clicking on the only label of a small tree selects the whole source. -/
theorem click_selects_span_parseProgram : ∃ label result,
    ((new [] .rune 0).after parseProgram).answer (click (.fixed [] [] []) 2 label) =
      .ok (.event result) ∧ result.handled = 1 ∧ (result.selection.anchor : Int) = 0 ∧
      (result.selection.head : Int) = 1 ∧ result.selected = utf8 "a" := by
  have hclick := (click_selects_span [] .rune 0 [] rfl rfl rfl ofDump?_program
    (mounts_parseProgram [] .rune 0) (fun y hy => absurd hy List.not_mem_nil) rfl
    (.fixed [] [] []) 2).1 0 _ rfl
  rcases hclick with ⟨label, result, _, _, hanswer, hpicks, _⟩
  rcases hpicks.fits ⟨0, 1⟩ rfl (by decide) with ⟨hanchor, hhead, hselected⟩
  refine ⟨label, result, hanswer, hpicks.handled, hanchor, hhead, ?_⟩
  have hanchor' : result.selection.anchor = 0 := Int.ofNat_inj.mp hanchor
  have hhead' : result.selection.head = 1 := Int.ofNat_inj.mp hhead
  rw [hselected, hanchor', hhead']
  rfl

end Session

end SyntaxPlayground
