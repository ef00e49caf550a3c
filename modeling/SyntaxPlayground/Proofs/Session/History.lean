import Mathlib.Data.List.Forall2
import SyntaxPlayground.Proofs.Session.Coherence
import SyntaxPlayground.Proofs.Session.Event

/-!
# What a session forgets

A command that shows what the compiler answered shows the same from every session with one name and one
unit, whatever the session went through before: nothing of earlier trees, results, views, selections or
listeners is left. Only the numbers of handles go on counting, so after `parse` two sessions are alike up
to the distance between their counters, and they stay alike through every sequence of events
(`Alike.after`, `Alike.answers`). The main result is `results_forget_history`.
-/

namespace SyntaxPlayground

namespace Session

open Document SyntaxPlayground.Tree Page

/-! ## Sessions at any time -/

/-- The sessions that a new one can become, by commands and by being closed. -/
inductive Reachable (id : Text) (unit : OffsetUnit) : Session → Prop where
  | new (start : Int) : Reachable id unit (new id unit start)
  | after {s : Session} (h : Reachable id unit s) (x : Step) : Reachable id unit (s.after x)
  | close {s : Session} (h : Reachable id unit s) : Reachable id unit s.close

variable {id : Text} {unit : OffsetUnit} {s s' : Session}

theorem Steady.close (h : s.Steady) : s.close.Steady := by
  unfold Session.close
  split
  · exact h
  · have hunbind := h.1.unbind
    exact ⟨hunbind.1, Or.inl hunbind.2⟩

/-- Whatever happens to a session, its books stay in order, and its name and unit stay. -/
theorem Reachable.kept (h : Reachable id unit s) :
    s.Steady ∧ s.id = id ∧ s.page.buffer.unit = unit := by
  induction h with
  | new start => exact ⟨(blank_new id unit start).steady, rfl, rfl⟩
  | @after s _ x ih =>
    have hsettings := settings_after s x
    refine ⟨ih.1.after x, ?_, ?_⟩
    · exact (congrArg (fun c => c.1) hsettings).trans ih.2.1
    · exact (congrArg (fun c => c.2.1) hsettings).trans ih.2.2
  | @close s _ ih =>
    refine ⟨ih.1.close, ?_⟩
    unfold Session.close
    split
    · exact ih.2
    · exact ih.2

/-! ## What is shown right after a command -/

/-- What a session shows right after a command that shows text. -/
def textSnapshot (id : Text) (unit : OffsetUnit) (source output : Text) : Snapshot where
  id
  view := ViewMode.text.name
  source
  treeHtml := []
  nodes := 0
  result := output
  selection := {}
  selected := Buffer.selected { unit, text := source }
  interactive := false

/-- What a session shows right after a command that shows a tree, numbered from `next` on. -/
def treeSnapshot (id : Text) (unit : OffsetUnit) (source output : Text) (t : Tree) (next : Nat) :
    Snapshot where
  id
  view := ViewMode.tree.name
  source
  treeHtml := Markup.writeAll (numberAll next t.markup.legible).1
  nodes := t.count
  result := output
  selection := {}
  selected := Buffer.selected { unit, text := source }
  interactive := true

variable {source output : Text} {t : Tree}

theorem showText_answer (s : Session) (source output : Text) :
    (s.showText source output).1 =
      .ok (.snapshot (textSnapshot s.id s.page.buffer.unit source output)) :=
  rfl

theorem showParse_answer_text (s : Session) (source : Text) (hdump : ofDump? output = none) :
    (s.showParse source output).1 =
        .ok (.snapshot (textSnapshot s.id s.page.buffer.unit source output)) ∧
      (s.showParse source output).2.page.buffer = { unit := s.page.buffer.unit, text := source } := by
  have hmount : (s.prepared source output).page.document.mount (renderTree (ofDump? output)) =
      .ok (s.prepared source output).page.document.clear := by
    rw [hdump]
    exact mount_nil _
  have hnodes : (s.prepared source output).tree = none := hdump
  rw [showParse_eq, hmount, hdump]
  refine ⟨?_, rfl⟩
  simp only [snapshot, withDocument, hnodes]
  rfl

theorem Displays.snapshot_eq {next : Nat} (h : s.Displays t dark next source output)
    (hbuffer : s.page.buffer = { unit, text := source }) :
    s.snapshot = treeSnapshot s.id unit source output t next := by
  have hbound := h.isBound
  simp only [snapshot, treeSnapshot, treeHtml, numberAll_markup, h.mode, h.shows.content, h.tree, h.result,
    hbuffer, hbound, Option.map_some, Option.getD_some]

theorem showParse_answer_tree (h : s.page.Sound) (source : Text) (hdump : ofDump? output = some t)
    (hheight : t.height ≤ maxHeight) :
    (s.showParse source output).1 = .ok (.snapshot
        (treeSnapshot s.id s.page.buffer.unit source output t s.page.document.nextHandle)) ∧
      (s.showParse source output).2.page.buffer = { unit := s.page.buffer.unit, text := source } := by
  have hdisplays := (displays_showParse h source hdump hheight).2
  rw [showParse_of_mount hdump (mount_render_eq_ok.mpr ⟨hheight, rfl⟩)] at hdisplays ⊢
  have hbuffer : (s.shown source output t).page.buffer = { unit := s.page.buffer.unit, text := source } :=
    bind_buffer (s.mountedPage source output t)
  rw [hdisplays.snapshot_eq hbuffer]
  exact ⟨rfl, hbuffer⟩

/-! ## Handles up to a shift -/

/-- Two handles at the same distance from two numbers. A text that is no handle stays what it is. -/
def Shifted (b b' : Nat) (h h' : Handle) : Prop :=
  (∃ i j, h = handleText i ∧ h' = handleText j ∧ i + b' = j + b) ∨ (h = h' ∧ ∀ i, h ≠ handleText i)

variable {b b' : Nat} {lit lit' : Nat → Bool}

theorem Shifted.eq_of_eq {h h' : Handle} (hshift : Shifted b b' h h') {d : Nat}
    (hd : h = handleText (b + d)) : h' = handleText (b' + d) := by
  rcases hshift with ⟨i, j, hi, rfl, hij⟩ | ⟨_, hnone⟩
  · have hnumber := handleText_injective (hi.symm.trans hd)
    congr 1
    omega
  · exact absurd hd (hnone _)

theorem Shifted.symm {h h' : Handle} (hshift : Shifted b b' h h') : Shifted b' b h' h := by
  rcases hshift with ⟨i, j, hi, hj, hij⟩ | ⟨rfl, hnone⟩
  · exact Or.inl ⟨j, i, hj, hi, hij.symm⟩
  · exact Or.inr ⟨rfl, hnone⟩

/-- A shifted handle stands in the one tree if and only if the handle stands in the other. -/
theorem Shifted.mem_of_mem {h h' : Handle} (hshift : Shifted b b' h h')
    (hmem : h ∈ handlesIn [t.mounted lit b]) : h' ∈ handlesIn [t.mounted lit' b'] := by
  rcases mem_handlesIn_mounted.mp hmem with ⟨i, hlow, hhigh, hi⟩
  have hdistance : h = handleText (b + (i - b)) := by
    rw [hi]
    congr 1
    omega
  rw [hshift.eq_of_eq hdistance]
  exact mem_handlesIn_mounted.mpr ⟨_, by omega, by omega, rfl⟩

theorem forall₂_lit (n n' count : Nat) (hn : n + b' = n' + b)
    (hlit : ∀ k < count, lit (n + 2 * k) = lit' (n' + 2 * k)) :
    List.Forall₂ (Shifted b b') (((List.range' n count 2).filter lit).map handleText)
      (((List.range' n' count 2).filter lit').map handleText) := by
  induction count generalizing n n' with
  | zero => exact List.Forall₂.nil
  | succ count ih =>
    have hrest := ih (n + 2) (n' + 2) (by omega) (by
      intro k hk
      have hshift := hlit (k + 1) (by omega)
      rwa [Nat.mul_succ, Nat.add_comm (2 * k), ← Nat.add_assoc, ← Nat.add_assoc] at hshift)
    have hfirst : lit n = lit' n' := hlit 0 (by omega)
    rw [List.range'_succ, List.range'_succ, List.filter_cons, List.filter_cons, hfirst]
    cases lit' n' with
    | false => exact hrest
    | true => exact List.Forall₂.cons (Or.inl ⟨n, n', rfl, rfl, hn⟩) hrest

/-! ## Sessions that are alike -/

/-- Two results of an event that differ in the numbers of handles only. -/
structure ResultsAlike (b b' : Nat) (r r' : EventResult) : Prop where
  handled : r'.handled = r.handled
  selection : r'.selection = r.selection
  selected : r'.selected = r.selected
  highlighted : List.Forall₂ (Shifted b b') r.highlighted r'.highlighted

/-- Two answers to an event that differ in the numbers of handles only. -/
inductive AnswersAlike (b b' : Nat) : Except SessionError Answer → Except SessionError Answer → Prop where
  | result {r r' : EventResult} (h : ResultsAlike b b' r r') :
      AnswersAlike b b' (.ok (.event r)) (.ok (.event r'))
  | unknown {x x' : Handle} (h : Shifted b b' x x') :
      AnswersAlike b b' (.error (.event (.unknownElement x))) (.error (.event (.unknownElement x')))
  | unsupported (kind : Text) :
      AnswersAlike b b' (.error (.event (.unsupportedKind kind))) (.error (.event (.unsupportedKind kind)))

/-- Two steps that send the same event, but for the number of the handle. -/
def EventsAlike (b b' : Nat) (y y' : Step) : Prop :=
  ∃ kind h h', y.command = .event kind h ∧ y'.command = .event kind h' ∧ Shifted b b' h h'

/-- Two sessions that show the same, but for the numbers of handles. -/
structure Alike (b b' : Nat) (s s' : Session) : Prop where
  opened : s.closed = false ∧ s'.closed = false
  buffer : s'.page.buffer = s.page.buffer
  shown : (s.Blank ∧ s'.Blank) ∨ ∃ t lit lit' source output,
    s.Displays t lit b source output ∧ s'.Displays t lit' b' source output ∧
      ∀ k < t.count, lit (b + 2 * k) = lit' (b' + 2 * k)

theorem Alike.touched (h : Alike b b' s s') (time time' : Int) :
    Alike b b' (s.touched time) (s'.touched time') := by
  refine ⟨h.opened, h.buffer, ?_⟩
  rcases h.shown with ⟨hblank, hblank'⟩ | ⟨t, lit, lit', source, output, hdisplays, hdisplays', hlit⟩
  · exact Or.inl ⟨hblank.touched time, hblank'.touched time'⟩
  · exact Or.inr ⟨t, lit, lit', source, output, hdisplays.touched time, hdisplays'.touched time', hlit⟩

theorem Alike.feedback (h : Alike b b' s s') (handled : Nat) :
    ResultsAlike b b' (s.feedback handled) (s'.feedback handled) := by
  refine ⟨rfl, congrArg Buffer.selection h.buffer, congrArg Buffer.selected h.buffer, ?_⟩
  simp only [Session.feedback]
  rcases h.shown with ⟨hblank, hblank'⟩ | ⟨t, lit, lit', source, output, hdisplays, hdisplays', hlit⟩
  · simp only [withClass, hblank.content, hblank'.content]
    exact List.Forall₂.nil
  · rw [withClass_highlight hdisplays.shows.content, withClass_highlight hdisplays'.shows.content]
    exact forall₂_lit b b' t.count (Nat.add_comm b b') hlit

/-- What two sessions make of two events. -/
def EventsAgree (b b' : Nat) (s s' : Session) (y y' : Step) : Prop :=
  AnswersAlike b b' (s.answer y) (s'.answer y') ∧ Alike b b' (s.after y) (s'.after y')

/-- An event that is refused leaves both sessions as they were. -/
theorem Alike.of_refused (h : Alike b b' s s') {y y' : Step} {e e' : SessionError}
    (hrun : s.run y.compiler y.now y.command = (.error e, s.touched y.now))
    (hrun' : s'.run y'.compiler y'.now y'.command = (.error e', s'.touched y'.now))
    (herror : AnswersAlike b b' (.error e) (.error e')) : EventsAgree b b' s s' y y' := by
  unfold EventsAgree answer after
  rw [hrun, hrun']
  exact ⟨herror, h.touched y.now y'.now⟩

/-- The lights of two trees stay alike when the same label is entered or left. -/
theorem litAfter_alike {count j : Nat} (hlit : ∀ k < count, lit (b + 2 * k) = lit' (b' + 2 * k))
    (r : Reaction) : ∀ k < count,
      litAfter r lit (b + 2 * j) (b + 2 * k) = litAfter r lit' (b' + 2 * j) (b' + 2 * k) := by
  intro k hk
  have hsame : b + 2 * k = b + 2 * j ↔ b' + 2 * k = b' + 2 * j := by omega
  cases r with
  | hoverIn => simp only [litAfter, switch, hsame, hlit k hk]
  | hoverOut => simp only [litAfter, switch, hsame, hlit k hk]
  | pick => exact hlit k hk

/-- An event on a label makes the same of two sessions that show one tree. -/
theorem Alike.event_label (h : Alike b b' s s') (hdisplays : s.Displays t lit b source output)
    (hdisplays' : s'.Displays t lit' b' source output)
    (hlit : ∀ k < t.count, lit (b + 2 * k) = lit' (b' + 2 * k)) {y y' : Step} {kind : Text}
    (hkind : kind ∈ EventKind.all) {k : Nat} (hk : k < t.count)
    (hy : y.command = .event kind (handleText (b + 2 * k + 1)))
    (hy' : y'.command = .event kind (handleText (b' + 2 * k + 1))) : EventsAgree b b' s s' y y' := by
  rcases h.opened with ⟨hopen, hopen'⟩
  rcases hdisplays.event_label hopen hkind hk y.compiler y.now with ⟨s₁, hrun, hreacted⟩
  rcases hdisplays'.event_label hopen' hkind hk y'.compiler y'.now with ⟨s₁', hrun', hreacted'⟩
  rw [← hy] at hrun
  rw [← hy'] at hrun'
  have hafter : s.after y = s₁ := congrArg Prod.snd hrun
  have hafter' : s'.after y' = s₁' := congrArg Prod.snd hrun'
  have hanswer : s.answer y = .ok (.event (s₁.feedback 1)) := congrArg Prod.fst hrun
  have hanswer' : s'.answer y' = .ok (.event (s₁'.feedback 1)) := congrArg Prod.fst hrun'
  have halike : Alike b b' s₁ s₁' := by
    refine ⟨?_, ?_, ?_⟩
    · rw [← hafter, ← hafter']
      exact ⟨(closed_after s y).trans hopen, (closed_after s' y').trans hopen'⟩
    · -- both pick the span of the same node
      rcases hreacted.buffer with ⟨n, hn, hbuffer⟩
      rcases hreacted'.buffer with ⟨n', hn', hbuffer'⟩
      rw [hbuffer, hbuffer', h.buffer, Option.some_inj.mp (hn.symm.trans hn')]
    · exact Or.inr ⟨t, _, _, source, output, hreacted.displays, hreacted'.displays,
        litAfter_alike hlit (reactionTo kind)⟩
  unfold EventsAgree
  rw [hanswer, hanswer', hafter, hafter']
  exact ⟨.result (halike.feedback 1), halike⟩

/-- Two sessions that are alike answer the same event alike, and are alike after it. -/
theorem Alike.after (h : Alike b b' s s') {y y' : Step} (hy : EventsAlike b b' y y') :
    EventsAgree b b' s s' y y' := by
  rcases y with ⟨compiler, now, command⟩
  rcases y' with ⟨compiler', now', command'⟩
  rcases hy with ⟨kind, x, x', rfl, rfl, hshift⟩
  rcases h.opened with ⟨hopen, hopen'⟩
  by_cases hkind : kind ∈ EventKind.all
  · rcases h.shown with ⟨hblank, hblank'⟩ | ⟨t, lit, lit', source, output, hdisplays, hdisplays', hlit⟩
    · -- an empty tree pane has no handles
      have hx : x ∉ handlesIn s.page.document.content := by
        rw [hblank.content]
        exact List.not_mem_nil
      have hx' : x' ∉ handlesIn s'.page.document.content := by
        rw [hblank'.content]
        exact List.not_mem_nil
      exact h.of_refused (run_event_unknown hopen hblank.sound hkind hx compiler now)
        (run_event_unknown hopen' hblank'.sound hkind hx' compiler' now') (.unknown hshift)
    · by_cases hx : x ∈ handlesIn [t.mounted lit b]
      · rcases exists_of_mem_handlesIn hx with ⟨k, n, hk, rfl | rfl⟩
        · have hx' := hshift.eq_of_eq (d := 2 * k) rfl
          subst hx'
          have hlt := lt_count_of_getElem? hk
          have hrun := hdisplays.event_list hopen hkind hlt compiler now
          have hrun' := hdisplays'.event_list hopen' hkind hlt compiler' now'
          unfold EventsAgree answer Session.after
          rw [hrun, hrun']
          exact ⟨.result (h.feedback 0), h.touched now now'⟩
        · have hx' := hshift.eq_of_eq (d := 2 * k + 1) rfl
          subst hx'
          exact h.event_label hdisplays hdisplays' hlit hkind (lt_count_of_getElem? hk) rfl rfl
      · have hx' : x' ∉ handlesIn [t.mounted lit' b'] := fun hmem => hx (hshift.symm.mem_of_mem hmem)
        rw [← hdisplays.shows.content] at hx
        rw [← hdisplays'.shows.content] at hx'
        exact h.of_refused (run_event_unknown hopen hdisplays.sound hkind hx compiler now)
          (run_event_unknown hopen' hdisplays'.sound hkind hx' compiler' now') (.unknown hshift)
  · exact h.of_refused (run_event_unsupported hopen hkind compiler now x)
      (run_event_unsupported hopen' hkind compiler' now' x') (.unsupported kind)

/-- What a session answers to some steps, one after the other. -/
def answers (s : Session) : List Step → List (Except SessionError Answer)
  | [] => []
  | x :: xs => s.answer x :: (s.after x).answers xs

/-- Two sessions that are alike answer every sequence of events alike. -/
theorem Alike.answers (h : Alike b b' s s') {ys ys' : List Step}
    (hys : List.Forall₂ (EventsAlike b b') ys ys') :
    List.Forall₂ (AnswersAlike b b') (s.answers ys) (s'.answers ys') := by
  induction hys generalizing s s' with
  | nil => exact List.Forall₂.nil
  | cons hy hys ih =>
    have hstep := h.after hy
    exact List.Forall₂.cons hstep.1 (ih hstep.2)

/-! ## Whatever came before -/

/-- Two snapshots that differ in the numbers of handles only: the tree pane of both is one content, with
handles from `b` on and from `b'` on. -/
structure SnapshotsAlike (b b' : Nat) (a a' : Snapshot) : Prop where
  handles : ∃ content, a.treeHtml = Markup.writeAll (numberAll b content).1 ∧
    a'.treeHtml = Markup.writeAll (numberAll b' content).1
  rest : a' = { a with treeHtml := a'.treeHtml }

/-- Two sessions make the same of what the compiler answers to an operation. -/
structure SameOutcome (op : Operation) (s s' : Session) (x x' : Step) : Prop where
  text : op ≠ .parse → ∃ a, s.answer x = .ok (.snapshot a) ∧ s'.answer x' = .ok (.snapshot a) ∧
    (s.after x).page.document.registry.count = (s'.after x').page.document.registry.count
  tree : op = .parse → ∃ a a', s.answer x = .ok (.snapshot a) ∧ s'.answer x' = .ok (.snapshot a') ∧
    SnapshotsAlike s.page.document.nextHandle s'.page.document.nextHandle a a'
  events : op = .parse → ∀ ys ys',
    List.Forall₂ (EventsAlike s.page.document.nextHandle s'.page.document.nextHandle) ys ys' →
    List.Forall₂ (AnswersAlike s.page.document.nextHandle s'.page.document.nextHandle)
      ((s.after x).answers ys) ((s'.after x').answers ys')

/-- A dump without a tree is answered and shown as text. -/
theorem shown_text_of_run (h : s.page.Sound) {x : Step}
    (hrun : s.run x.compiler x.now x.command = (s.touched x.now).showParse source output)
    (hdump : ofDump? output = none) :
    s.answer x = .ok (.snapshot (textSnapshot s.id s.page.buffer.unit source output)) ∧
      (s.after x).page.buffer = { unit := s.page.buffer.unit, text := source } ∧ (s.after x).Blank := by
  have htouched : (s.touched x.now).page.Sound := h
  rcases showParse_answer_text (s.touched x.now) source hdump with ⟨hshown, hbuffer⟩
  unfold answer after
  rw [hrun]
  exact ⟨hshown, hbuffer, (blank_showParse htouched source hdump).2⟩

/-- Any other dump is answered and shown as its tree. -/
theorem shown_tree_of_run (h : s.page.Sound) {x : Step}
    (hrun : s.run x.compiler x.now x.command = (s.touched x.now).showParse source output)
    (hdump : ofDump? output = some t) (hheight : t.height ≤ maxHeight) :
    s.answer x = .ok (.snapshot
        (treeSnapshot s.id s.page.buffer.unit source output t s.page.document.nextHandle)) ∧
      (s.after x).page.buffer = { unit := s.page.buffer.unit, text := source } ∧
      (s.after x).Displays t dark s.page.document.nextHandle source output := by
  have htouched : (s.touched x.now).page.Sound := h
  rcases showParse_answer_tree htouched source hdump hheight with ⟨hshown, hbuffer⟩
  unfold answer after
  rw [hrun]
  exact ⟨hshown, hbuffer, (displays_showParse htouched source hdump hheight).2⟩

/-- Two sessions that show the same dump answer alike and are alike. -/
theorem alike_of_parse (h : s.page.Sound) (h' : s'.page.Sound) (hid : s'.id = s.id)
    (hunit : s'.page.buffer.unit = s.page.buffer.unit) (hopen : s.closed = false)
    (hopen' : s'.closed = false) {x x' : Step}
    (hrun : s.run x.compiler x.now x.command = (s.touched x.now).showParse source output)
    (hrun' : s'.run x'.compiler x'.now x'.command = (s'.touched x'.now).showParse source output)
    (hheight : ∀ t, ofDump? output = some t → t.height ≤ maxHeight) :
    (∃ a a', s.answer x = .ok (.snapshot a) ∧ s'.answer x' = .ok (.snapshot a') ∧
      SnapshotsAlike s.page.document.nextHandle s'.page.document.nextHandle a a') ∧
    Alike s.page.document.nextHandle s'.page.document.nextHandle (s.after x) (s'.after x') := by
  have hopened := And.intro ((closed_after s x).trans hopen) ((closed_after s' x').trans hopen')
  cases hdump : ofDump? output with
  | none =>
    rcases shown_text_of_run h hrun hdump with ⟨hanswer, hbuffer, hblank⟩
    rcases shown_text_of_run h' hrun' hdump with ⟨hanswer', hbuffer', hblank'⟩
    rw [hid, hunit] at hanswer'
    rw [hunit, ← hbuffer] at hbuffer'
    -- the tree pane of both is empty
    constructor
    · exact ⟨_, _, hanswer, hanswer', ⟨[], rfl, rfl⟩, rfl⟩
    · exact ⟨hopened, hbuffer', Or.inl ⟨hblank, hblank'⟩⟩
  | some t =>
    rcases shown_tree_of_run h hrun hdump (hheight t hdump) with ⟨hanswer, hbuffer, hdisplays⟩
    rcases shown_tree_of_run h' hrun' hdump (hheight t hdump) with ⟨hanswer', hbuffer', hdisplays'⟩
    rw [hid, hunit] at hanswer'
    rw [hunit, ← hbuffer] at hbuffer'
    -- the tree pane of both holds the markup of the tree, and nothing is lit yet
    constructor
    · exact ⟨_, _, hanswer, hanswer', ⟨t.markup.legible, rfl, rfl⟩, rfl⟩
    · refine ⟨hopened, hbuffer', Or.inr ?_⟩
      exact ⟨t, dark, dark, source, output, hdisplays, hdisplays', fun _ _ => rfl⟩

/-- Two open sessions with one name and one unit make the same of what the compiler answers. -/
theorem sameOutcome_of_run {op : Operation} (h : s.page.Sound) (h' : s'.page.Sound) (hid : s'.id = s.id)
    (hunit : s'.page.buffer.unit = s.page.buffer.unit) (hopen : s.closed = false)
    (hopen' : s'.closed = false) {x x' : Step}
    (hrun : s.run x.compiler x.now x.command = (s.touched x.now).showReply op source output)
    (hrun' : s'.run x'.compiler x'.now x'.command = (s'.touched x'.now).showReply op source output)
    (hheight : op = .parse → ∀ t, ofDump? output = some t → t.height ≤ maxHeight) :
    SameOutcome op s s' x x' := by
  have htouched : (s.touched x.now).page.Sound := h
  have htouched' : (s'.touched x'.now).page.Sound := h'
  by_cases hop : op = .parse
  · subst hop
    rcases alike_of_parse h h' hid hunit hopen hopen' hrun hrun' (hheight rfl) with ⟨hanswers, halike⟩
    exact ⟨fun hne => absurd rfl hne, fun _ => hanswers, fun _ ys ys' hys => halike.answers hys⟩
  · refine ⟨fun _ => ?_, fun heq => absurd heq hop, fun heq => absurd heq hop⟩
    rw [showReply_of_ne hop] at hrun hrun'
    have hanswer : s.answer x = ((s.touched x.now).showText source output).1 := congrArg Prod.fst hrun
    have hanswer' : s'.answer x' = ((s'.touched x'.now).showText source output).1 :=
      congrArg Prod.fst hrun'
    have hafter : s.after x = ((s.touched x.now).showText source output).2 := congrArg Prod.snd hrun
    have hafter' : s'.after x' = ((s'.touched x'.now).showText source output).2 :=
      congrArg Prod.snd hrun'
    have hinert := (blank_showText htouched source output).inert
    have hinert' := (blank_showText htouched' source output).inert
    refine ⟨_, hanswer.trans (showText_answer _ _ _), ?_, ?_⟩
    · rw [hanswer', showText_answer]
      simp only [touched, hid, hunit]
    · unfold Registry.count
      rw [hafter, hafter', hinert, hinert']

/-- What a session makes of an answer of the compiler does not depend on what it went through. From any
two sessions with one name and one unit, `tokenize` and `interpret` give the same snapshot and leave as
many listeners; `parse` gives the same snapshot up to the numbers of handles, which go on from those that
were given before, and the two sessions then answer every sequence of events alike. In particular, the
command would have given the same in a new session. -/
theorem results_forget_history (hs : Reachable id unit s) (hs' : Reachable id unit s')
    {op : Operation} {x x' : Step} {a a' : Answer} (hx : x.command = asking op source)
    (hx' : x'.command = asking op source) (hreply : x'.compiler op source = x.compiler op source)
    (ha : s.answer x = .ok a) (ha' : s'.answer x' = .ok a') :
    SameOutcome op s s' x x' ∧ ∀ start, SameOutcome op s (new id unit start) x x := by
  rcases run_of_asking op hx ha with ⟨hopen, output, hcompiler, hrun⟩
  rcases run_of_asking op hx' ha' with ⟨hopen', output', hcompiler', hrun'⟩
  rcases hs.kept with ⟨hsteady, hid, hunit⟩
  rcases hs'.kept with ⟨hsteady', hid', hunit'⟩
  have houtput : output' = output := by
    rw [hreply, hcompiler] at hcompiler'
    exact (Except.ok.inj hcompiler').symm
  rw [houtput] at hrun'
  have hheight : op = .parse → ∀ t, ofDump? output = some t → t.height ≤ maxHeight := by
    rintro rfl t hdump
    -- one session mounted the tree, so it is not too high for any other
    have htouched : (s.touched x.now).page.Sound := hsteady.1
    exact height_le_of_showParse htouched hdump ((congrArg Prod.fst hrun).symm.trans ha)
  constructor
  · exact sameOutcome_of_run hsteady.1 hsteady'.1 (hid'.trans hid.symm) (hunit'.trans hunit.symm) hopen
      hopen' hrun hrun' hheight
  · intro start
    have hfresh := run_asking (s := new id unit start) op rfl hx hcompiler
    exact sameOutcome_of_run hsteady.1 (sound_new unit) hid.symm hunit.symm hopen rfl hrun hfresh hheight

/-- The second time a small tree is parsed its elements get the handles `n2` and `n3` instead of `n0` and
`n1`, and a click on its label makes of it what it would have made of the first. -/
theorem results_forget_history_shownProgram : shownProgram.page.document.nextHandle = 2 ∧
    (∃ a a', (new [] .rune 0).answer parseProgram = .ok (.snapshot a) ∧
      shownProgram.answer parseProgram = .ok (.snapshot a') ∧ SnapshotsAlike 0 2 a a') ∧
    List.Forall₂ (AnswersAlike 0 2)
      (shownProgram.answers [⟨.fixed [] [] [], 2, .event EventKind.click (handleText 1)⟩])
      ((shownProgram.after parseProgram).answers
        [⟨.fixed [] [] [], 3, .event EventKind.click (handleText 3)⟩]) := by
  have hnew : Reachable [] .rune (new [] .rune 0) := .new 0
  rcases answer_parseProgram [] .rune 0 with ⟨a, ha⟩
  have hagain : ∃ a', shownProgram.answer parseProgram = .ok a' :=
    (displays_of_parse displays_shownProgram.sound (closed_after _ _) rfl rfl ofDump?_program
      (by decide)).1
  rcases hagain with ⟨a', ha'⟩
  have hasking : parseProgram.command = asking .parse (utf8 "a") := rfl
  have hsame := (results_forget_history hnew (hnew.after parseProgram) hasking hasking rfl ha ha').1
  refine ⟨rfl, hsame.tree rfl, hsame.events rfl _ _ ?_⟩
  exact List.Forall₂.cons ⟨_, _, _, rfl, rfl, Or.inl ⟨1, 3, rfl, rfl, rfl⟩⟩ List.Forall₂.nil

end Session

end SyntaxPlayground
