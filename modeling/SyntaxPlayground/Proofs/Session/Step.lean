import SyntaxPlayground.Proofs.Page.Interaction
import SyntaxPlayground.Session

/-!
# What one command does to a session

A session either shows a tree (`Displays`) or shows none (`Blank`), or it is left over from a tree that
could not be mounted (then its page is inert). This module says which of these every command leads to.
Runs are lists of steps: a command, the time it comes at, and the compiler that answers it then.
-/

namespace SyntaxPlayground

namespace Session

open Document SyntaxPlayground.Tree Page

/-! ## Runs -/

/-- A command with what it meets: the time, and a compiler that may answer anything. -/
structure Step where
  compiler : Compiler
  now : Int
  command : Command

/-- What the session answers to a step. -/
def answer (s : Session) (x : Step) : Except SessionError Answer :=
  (s.run x.compiler x.now x.command).1

/-- The session after a step. -/
def after (s : Session) (x : Step) : Session :=
  (s.run x.compiler x.now x.command).2

/-- The session after some steps. -/
def afterAll (s : Session) (xs : List Step) : Session :=
  xs.foldl after s

theorem afterAll_append (s : Session) (xs ys : List Step) :
    s.afterAll (xs ++ ys) = (s.afterAll xs).afterAll ys := by
  unfold afterAll
  rw [List.foldl_append]

/-- A property holds of every step of a run, at the session that the step finds. -/
def Along (P : Session → Step → Prop) : Session → List Step → Prop
  | _, [] => True
  | s, x :: xs => P s x ∧ Along P (s.after x) xs

theorem along_append {P : Session → Step → Prop} {s : Session} {xs ys : List Step} :
    Along P s (xs ++ ys) ↔ Along P s xs ∧ Along P (s.afterAll xs) ys := by
  induction xs generalizing s with
  | nil => exact ⟨fun h => ⟨trivial, h⟩, fun h => h.2⟩
  | cons x xs ih =>
    rw [List.cons_append, Along, Along, ih, and_assoc]
    rfl

/-- The step does not fail to mount a tree. -/
def Mounts (s : Session) (x : Step) : Prop :=
  ∀ e, s.answer x ≠ .error (.mount e)

theorem mounts_of_ok {s : Session} {x : Step} (h : ∃ a, s.answer x = .ok a) : Mounts s x := by
  intro e herror
  rcases h with ⟨a, ha⟩
  cases ha.symm.trans herror

/-- The step is no command that replaces what is shown, or it fails. -/
def Keeps (s : Session) (x : Step) : Prop :=
  x.command = .snapshot ∨ (∃ kind h, x.command = .event kind h) ∨ ∃ e, s.answer x = .error e

/-! ## What a session shows -/

/-- The session shows a tree that was dumped for a source. -/
structure Displays (s : Session) (t : Tree) (lit : Nat → Bool) (next : Nat) (source output : Text) :
    Prop where
  sound : s.page.Sound
  shows : s.page.Shows t lit next
  tree : s.tree = some t
  dump : ofDump? output = some t
  mode : s.page.document.mode = .tree
  result : s.page.document.result = output
  text : s.page.buffer.text = source

/-- The session shows no tree. -/
structure Blank (s : Session) : Prop where
  sound : s.page.Sound
  inert : s.page.Inert
  tree : s.tree = none
  content : s.page.document.content = []

variable {s : Session} {t : Tree} {lit : Nat → Bool} {next : Nat} {source output : Text}

theorem blank_new (id : Text) (unit : OffsetUnit) (now : Int) : (new id unit now).Blank :=
  ⟨sound_new unit, rfl, rfl, rfl⟩

/-! ## Dropping the tree -/

theorem blank_dropTree (h : s.page.Sound) : s.dropTree.Blank := by
  have hunbind := h.unbind
  exact ⟨hunbind.1.clear, hunbind.2, rfl, rfl⟩

theorem blank_showText (h : s.page.Sound) (source output : Text) :
    (s.showText source output).2.Blank := by
  have hdrop := blank_dropTree h
  exact ⟨hdrop.sound.of_same_books rfl rfl, hdrop.inert, rfl, rfl⟩

theorem blank_loadSample (h : s.page.Sound) (source : Text) : (s.dropTree.setSource source).Blank := by
  have hdrop := blank_dropTree h
  exact ⟨hdrop.sound.of_same_books rfl rfl, hdrop.inert, rfl, rfl⟩

/-! ## Showing a dump -/

/-- The session that is about to show what the compiler answered to `parse`. -/
def prepared (s : Session) (source output : Text) : Session :=
  { setSource { s with page := s.page.unbind } source with tree := ofDump? output }

theorem showParse_eq (s : Session) (source output : Text) :
    s.showParse source output =
      match (s.prepared source output).page.document.mount (renderTree (ofDump? output)) with
      | .error e => (.error (.mount e), s.prepared source output)
      | .ok d =>
        let s' := (s.prepared source output).withDocument fun _ => d.setResult output
        let s' :=
          match ofDump? output with
          | none => withDocument { s' with page := s'.page.note .noTree } (·.setViewMode .text)
          | some _ =>
            withDocument { s' with page := s'.page.bind.2.note .treeMounted } (·.setViewMode .tree)
        (.ok (.snapshot s'.snapshot), s') :=
  rfl

theorem Sound.prepared (h : s.page.Sound) (source output : Text) :
    (s.prepared source output).page.Sound ∧ (s.prepared source output).page.Inert := by
  have hunbind := h.unbind
  exact ⟨hunbind.1.of_same_books rfl rfl, hunbind.2⟩

/-- A dump without a tree shows as text. -/
theorem blank_showParse (h : s.page.Sound) (source : Text) (hdump : ofDump? output = none) :
    (∃ a, (s.showParse source output).1 = .ok a) ∧ (s.showParse source output).2.Blank := by
  have hprepared := Sound.prepared h source output
  have hmount : (s.prepared source output).page.document.mount (renderTree (ofDump? output)) =
      .ok (s.prepared source output).page.document.clear := by
    rw [hdump]
    exact mount_nil _
  have hclear := hprepared.1.clear
  rw [showParse_eq, hmount, hdump]
  refine ⟨⟨_, rfl⟩, ?_⟩
  exact ⟨hclear.of_same_books rfl rfl, hprepared.2, hdump, rfl⟩

/-- A tree that is too high leaves an inert page behind. -/
theorem showParse_tooHigh (h : s.page.Sound) (source : Text) (hdump : ofDump? output = some t)
    (hheight : ¬ t.height ≤ maxHeight) :
    (s.showParse source output).1 = .error (.mount (.badMarkup .tooDeep)) ∧
      (s.showParse source output).2.page.Sound ∧ (s.showParse source output).2.page.Inert := by
  have hmount : (s.prepared source output).page.document.mount (renderTree (ofDump? output)) =
      .error (.badMarkup .tooDeep) := by
    rw [hdump]
    exact (mount_render _ t).trans (if_neg hheight)
  rw [showParse_eq, hmount]
  exact ⟨rfl, Sound.prepared h source output⟩

/-- What is shown is not too high. -/
theorem height_le_of_showParse (h : s.page.Sound) {a : Answer} (hdump : ofDump? output = some t)
    (hshown : (s.showParse source output).1 = .ok a) : t.height ≤ maxHeight := by
  apply Decidable.byContradiction
  intro hheight
  cases hshown.symm.trans (showParse_tooHigh h source hdump hheight).1

/-- The page of a session that has mounted a tree, right before its labels are bound. -/
def mountedPage (s : Session) (source output : Text) (t : Tree) : Page :=
  { (s.prepared source output).page with
    document := ((s.prepared source output).page.document.showing t).setResult output }

theorem Sound.mountedPage (h : s.page.Sound) (source output : Text) (t : Tree) :
    (s.mountedPage source output t).Sound ∧ (s.mountedPage source output t).Inert := by
  have hprepared := Sound.prepared h source output
  have hshowing := hprepared.1.showing t
  exact ⟨hshowing.of_same_books rfl rfl, hprepared.2⟩

/-- Binding the labels makes the page show the tree, with the next numbers. -/
theorem bind_mountedPage (h : s.page.Sound) (source output : Text) (t : Tree) :
    (s.mountedPage source output t).bind.2.Sound ∧
      (s.mountedPage source output t).bind.2.Shows t dark s.page.document.nextHandle ∧
      (s.mountedPage source output t).bind.2.document.result = output ∧
      (s.mountedPage source output t).bind.2.buffer.text = source := by
  have hprepared := Sound.prepared h source output
  rcases Sound.mountedPage h source output t with ⟨hsound, hinert⟩
  have hcontent : (s.mountedPage source output t).document.content =
      [t.mounted dark s.page.document.nextHandle] := rfl
  have hbind := hsound.bind hinert hcontent
  refine ⟨hbind.sound, ?_, ?_, ?_⟩
  · exact hbind.shows hinert hcontent (Nat.le_refl _) hprepared.1.detached_clear
  · rw [hbind.document]
    rfl
  · rw [hbind.buffer]
    rfl

/-- The session that shows a tree it has mounted. -/
def shown (s : Session) (source output : Text) (t : Tree) : Session :=
  { s.prepared source output with
    page := (s.mountedPage source output t).bind.2.present .treeMounted .tree }

theorem showParse_of_mount (hdump : ofDump? output = some t)
    (hmount : (s.prepared source output).page.document.mount t.render =
      .ok ((s.prepared source output).page.document.showing t)) :
    s.showParse source output =
      (.ok (.snapshot (s.shown source output t).snapshot), s.shown source output t) := by
  -- the two branches of showing a dump are decided by the two hypotheses
  have hrender : renderTree (some t) = t.render := rfl
  rw [showParse_eq, hdump, hrender, hmount]
  rfl

/-- Any other tree is shown, with the next numbers. -/
theorem displays_showParse (h : s.page.Sound) (source : Text) (hdump : ofDump? output = some t)
    (hheight : t.height ≤ maxHeight) :
    (∃ a, (s.showParse source output).1 = .ok a) ∧
      (s.showParse source output).2.Displays t dark s.page.document.nextHandle source output := by
  rw [showParse_of_mount hdump (mount_render_eq_ok.mpr ⟨hheight, rfl⟩)]
  refine ⟨⟨_, rfl⟩, ?_⟩
  rcases bind_mountedPage h source output t with ⟨hsound, hshows, hresult, htext⟩
  exact {
    sound := hsound.present .treeMounted .tree
    shows := hshows.present .treeMounted .tree
    tree := hdump
    dump := hdump
    mode := present_mode _ _ _
    result := (present_result _ _ _).trans hresult
    text := (congrArg Buffer.text (present_buffer _ _ _)).trans htext }

/-! ## Events -/

theorem sendEvent_error {x : Handle} {kind : Text} {e : DocumentError}
    (hev : s.page.document.eventTo x kind = .error e) :
    s.sendEvent kind x = (.error (.event e), s) := by
  unfold sendEvent
  rw [hev]

/-- What an event answers that some listeners have handled, and that has led to this session. -/
def feedback (s : Session) (handled : Nat) : EventResult where
  handled
  selection := s.page.buffer.selection
  selected := s.page.buffer.selected
  highlighted := s.page.document.withClass Vocabulary.highlight

theorem sendEvent_ok {x : Handle} {kind : Text} {ev : Event}
    (hev : s.page.document.eventTo x kind = .ok ev) :
    s.sendEvent kind x =
      (.ok (.event (feedback { s with page := (s.page.dispatch ev).2 } (s.page.dispatch ev).1)),
        { s with page := (s.page.dispatch ev).2 }) := by
  unfold sendEvent
  rw [hev]
  rfl

/-- Events do nothing on an inert page. -/
theorem sendEvent_inert (hsound : s.page.Sound) (hinert : s.page.Inert) (kind : Text) (x : Handle) :
    (s.sendEvent kind x).2 = s := by
  cases hev : s.page.document.eventTo x kind with
  | error e => rw [sendEvent_error hev]
  | ok ev => rw [sendEvent_ok hev, hinert.dispatch hsound]

/-- With other lists lit, the session shows the same tree. -/
theorem Displays.relight (h : s.Displays t lit next source output) (lit' : Nat → Bool)
    (selection : Selection) (log : List Notice) :
    Displays { s with page := { s.page with
      document := { s.page.document with content := [t.mounted lit' next] }
      buffer := { s.page.buffer with selection := selection }
      log := log } } t lit' next source output where
  sound := h.sound.relight h.shows.content lit' selection log
  shows := ⟨rfl, h.shows.listeners, h.shows.given, h.shows.older⟩
  tree := h.tree
  dump := h.dump
  mode := h.mode
  result := h.result
  text := h.text

/-- After any event the session shows the same tree. -/
theorem Displays.sendEvent (h : s.Displays t lit next source output) (kind : Text) (x : Handle) :
    ∃ lit', (s.sendEvent kind x).2.Displays t lit' next source output := by
  cases hev : s.page.document.eventTo x kind with
  | error e =>
    rw [sendEvent_error hev]
    exact ⟨lit, h⟩
  | ok ev =>
    rcases h.shows.dispatch h.sound hev with ⟨lit', selection, log, hpage⟩
    refine ⟨lit', ?_⟩
    rw [sendEvent_ok hev, hpage]
    exact h.relight lit' selection log

/-! ## Any command -/

/-- The session with another time of the last command. -/
def touched (s : Session) (time : Int) : Session :=
  { s with lastActive := time }

/-- What a step can do: nothing, show what the compiler answered, show a sample, or send an event. -/
inductive Outcome (s : Session) (x : Step) : Prop where
  | kept (time : Int) (hkeeps : Keeps s x) (hafter : s.after x = s.touched time)
  | parsed (source output : Text) (hcommand : x.command = .parse source)
      (hcompiler : x.compiler .parse source = .ok output)
      (hrun : s.run x.compiler x.now x.command = (s.touched x.now).showParse source output)
  | texted (source output : Text)
      (hcommand : x.command = .tokenize source ∨ x.command = .interpret source)
      (hafter : s.after x = ((s.touched x.now).showText source output).2)
  | sampled (name source : Text) (hcommand : x.command = .loadSample name)
      (hafter : s.after x = (s.touched x.now).dropTree.setSource source)
  | sent (kind : Text) (target : Handle) (hcommand : x.command = .event kind target)
      (hrun : s.run x.compiler x.now x.command = (s.touched x.now).sendEvent kind target)

theorem run_of_refusal {x : Step} {e : SessionError} (h : s.refusal? x.command = some e) :
    s.run x.compiler x.now x.command = (.error e, s) := by
  unfold run
  rw [h]

theorem run_of_accept {x : Step} (h : s.refusal? x.command = none) :
    s.run x.compiler x.now x.command = execute x.compiler (s.touched x.now) x.command := by
  unfold run
  rw [h]
  rfl

/-- A step that fails before it does anything. -/
theorem outcome_of_error {x : Step} {e : SessionError} (time : Int)
    (hrun : s.run x.compiler x.now x.command = (.error e, s.touched time)) : Outcome s x := by
  apply Outcome.kept time
  · exact Or.inr (Or.inr ⟨e, congrArg Prod.fst hrun⟩)
  · exact congrArg Prod.snd hrun

/-- What an accepted step can do. -/
theorem outcome_of_accept {x : Step} (hrefusal : s.refusal? x.command = none) : Outcome s x := by
  have hrun := run_of_accept hrefusal
  have hafter : s.after x = (execute x.compiler (s.touched x.now) x.command).2 := congrArg Prod.snd hrun
  rcases x with ⟨compiler, now, command⟩
  unfold execute at hrun hafter
  -- the samples themselves do not matter
  obtain ⟨catalog, hcatalog⟩ : ∃ catalog, Catalog.builtin = catalog := ⟨_, rfl⟩
  rw [hcatalog] at hrun hafter
  cases command with
  | parse source =>
    dsimp only at hrun
    cases hcompiler : compiler .parse source with
    | error f =>
      rw [hcompiler] at hrun
      exact outcome_of_error now hrun
    | ok output =>
      rw [hcompiler] at hrun
      exact Outcome.parsed source output rfl hcompiler hrun
  | tokenize source =>
    dsimp only at hrun
    cases hcompiler : compiler .tokenize source with
    | error f =>
      rw [hcompiler] at hrun
      exact outcome_of_error now hrun
    | ok output =>
      rw [hcompiler] at hrun
      exact Outcome.texted source output (Or.inl rfl) (congrArg Prod.snd hrun)
  | interpret source =>
    dsimp only at hrun
    cases hcompiler : compiler .interpret source with
    | error f =>
      rw [hcompiler] at hrun
      exact outcome_of_error now hrun
    | ok output =>
      rw [hcompiler] at hrun
      exact Outcome.texted source output (Or.inr rfl) (congrArg Prod.snd hrun)
  | loadSample name =>
    dsimp only at hrun hafter
    generalize catalog.get name = found at hrun hafter
    cases found with
    | error e => exact outcome_of_error now hrun
    | ok sample => exact Outcome.sampled name sample.source rfl hafter
  | event kind target => exact Outcome.sent kind target rfl hrun
  | snapshot => exact Outcome.kept now (Or.inl rfl) (congrArg Prod.snd hrun)

theorem outcome (s : Session) (x : Step) : Outcome s x := by
  cases hrefusal : s.refusal? x.command with
  | some e => exact outcome_of_error s.lastActive (run_of_refusal hrefusal)
  | none => exact outcome_of_accept hrefusal

/-- A sample is there or not, whatever the session. -/
theorem execute_loadSample (compiler : Compiler) (name : Text) :
    ∃ found : Except UnknownSample Sample, ∀ s : Session,
      execute compiler s (.loadSample name) =
        match found with
        | .error e => (.error (.unknownSample e), s)
        | .ok sample =>
          (.ok (.snapshot (s.dropTree.setSource sample.source).snapshot),
            s.dropTree.setSource sample.source) := by
  -- the samples themselves do not matter, so they are not to be looked up
  obtain ⟨catalog, hcatalog⟩ : ∃ catalog, Catalog.builtin = catalog := ⟨_, rfl⟩
  obtain ⟨c, hcommand⟩ : ∃ c, Command.loadSample name = c := ⟨_, rfl⟩
  refine ⟨catalog.get name, fun s => ?_⟩
  rw [hcommand]
  unfold execute
  rw [hcatalog]
  cases c with
  | loadSample name' =>
    cases hcommand
    rfl
  | _ => cases hcommand

/-! ## Asking the compiler -/

/-- The command that asks the compiler about a source. -/
def asking (op : Operation) (source : Text) : Command :=
  match op with
  | .parse => .parse source
  | .tokenize => .tokenize source
  | .interpret => .interpret source

/-- Shows what the compiler answered. -/
def showReply (s : Session) (op : Operation) (source output : Text) :
    Except SessionError Answer × Session :=
  match op with
  | .parse => s.showParse source output
  | .tokenize | .interpret => s.showText source output

theorem showReply_of_ne {op : Operation} (hop : op ≠ .parse) (s : Session) (source output : Text) :
    s.showReply op source output = s.showText source output := by
  cases op with
  | parse => exact absurd rfl hop
  | tokenize => rfl
  | interpret => rfl

theorem refusal?_asking (s : Session) (op : Operation) (source : Text) :
    s.refusal? (asking op source) = if s.closed then some .closed else none := by
  cases op <;> rfl

theorem execute_asking (compiler : Compiler) (s : Session) (op : Operation) (source : Text) :
    execute compiler s (asking op source) =
      match compiler op source with
      | .error f => (.error (.compiler f), s)
      | .ok output => s.showReply op source output := by
  cases op <;> rfl

/-- An open session shows what the compiler answered. -/
theorem run_asking {x : Step} (op : Operation) (hopen : s.closed = false)
    (hcommand : x.command = asking op source) (hcompiler : x.compiler op source = .ok output) :
    s.run x.compiler x.now x.command = (s.touched x.now).showReply op source output := by
  have hrefusal : s.refusal? x.command = none := by
    rw [hcommand, refusal?_asking, hopen]
    rfl
  rw [run_of_accept hrefusal, hcommand, execute_asking, hcompiler]

/-- A command that asks the compiler succeeds only if the session is open and there is an answer. -/
theorem run_of_asking {x : Step} {a : Answer} (op : Operation) (hcommand : x.command = asking op source)
    (hanswer : s.answer x = .ok a) : s.closed = false ∧ ∃ output, x.compiler op source = .ok output ∧
      s.run x.compiler x.now x.command = (s.touched x.now).showReply op source output := by
  cases hclosed : s.closed with
  | true =>
    have hrefusal : s.refusal? x.command = some .closed := by
      rw [hcommand, refusal?_asking, hclosed]
      rfl
    cases hanswer.symm.trans (congrArg Prod.fst (run_of_refusal hrefusal))
  | false =>
    have hrefusal : s.refusal? x.command = none := by
      rw [hcommand, refusal?_asking, hclosed]
      rfl
    cases hcompiler : x.compiler op source with
    | error f =>
      have hrun := run_of_accept hrefusal
      rw [hcommand, execute_asking, hcompiler, ← hcommand] at hrun
      cases hanswer.symm.trans (congrArg Prod.fst hrun)
    | ok output => exact ⟨rfl, output, rfl, run_asking op hclosed hcommand hcompiler⟩

/-- A parse shows a tree that is not too high, with the next numbers. -/
theorem displays_of_parse {x : Step} (h : s.page.Sound) (hopen : s.closed = false)
    (hcommand : x.command = .parse source) (hcompiler : x.compiler .parse source = .ok output)
    (hdump : ofDump? output = some t) (hheight : t.height ≤ maxHeight) :
    (∃ a, s.answer x = .ok a) ∧
      (s.after x).Displays t dark s.page.document.nextHandle source output := by
  have htouched : (s.touched x.now).page.Sound := h
  rw [answer, after, run_asking .parse hopen hcommand hcompiler]
  exact displays_showParse htouched source hdump hheight

/-- Tokens and output take the place of the tree. -/
theorem blank_of_text {x : Step} {op : Operation} (hop : op ≠ .parse) (h : s.page.Sound)
    (hopen : s.closed = false) (hcommand : x.command = asking op source)
    (hcompiler : x.compiler op source = .ok output) :
    (∃ a, s.answer x = .ok a) ∧ (s.after x).Blank := by
  have htouched : (s.touched x.now).page.Sound := h
  rw [answer, after, run_asking op hopen hcommand hcompiler, showReply_of_ne hop]
  exact ⟨⟨_, rfl⟩, blank_showText htouched source output⟩

/-! ## The time of a command does not matter -/

theorem Displays.touched (h : s.Displays t lit next source output) (time : Int) :
    (s.touched time).Displays t lit next source output :=
  ⟨h.sound, h.shows, h.tree, h.dump, h.mode, h.result, h.text⟩

theorem Blank.touched (h : s.Blank) (time : Int) : (s.touched time).Blank :=
  ⟨h.sound, h.inert, h.tree, h.content⟩

/-! ## Events on a tree that is shown -/

/-- An open session sends every event on. -/
theorem run_event (hopen : s.closed = false) (compiler : Compiler) (now : Int) (kind : Text)
    (h : Handle) : s.run compiler now (.event kind h) = (s.touched now).sendEvent kind h := by
  have hrefusal : s.refusal? (.event kind h) = none := by
    unfold refusal?
    simp only [hopen, Bool.false_eq_true, if_false]
  exact run_of_accept (x := ⟨compiler, now, .event kind h⟩) hrefusal

/-- An event finds every element of a tree that is shown. -/
theorem Displays.eventTo_handle (h : s.Displays t lit next source output) {kind : Text}
    (hkind : kind ∈ EventKind.all) {i : Nat} (hlow : next ≤ i) (hhigh : i < next + 2 * t.count) :
    s.page.document.eventTo (handleText i) kind = .ok ⟨kind, .element (handleText i)⟩ := by
  have hmem : handleText i ∈ s.page.document.handles := by
    rw [h.sound.handles, h.shows.content, mem_handlesIn_mounted]
    exact ⟨i, hlow, hhigh, rfl⟩
  unfold eventTo resolve
  rw [if_pos (List.contains_iff_mem.mpr hkind), if_pos (List.contains_iff_mem.mpr hmem)]
  rfl

/-- An event on an element of a tree that is shown is answered, and the tree stays. -/
theorem Displays.event_element (h : s.Displays t lit next source output) (hopen : s.closed = false)
    {kind : Text} (hkind : kind ∈ EventKind.all) {i : Nat} (hlow : next ≤ i)
    (hhigh : i < next + 2 * t.count) (compiler : Compiler) (now : Int) :
    (∃ a, s.answer ⟨compiler, now, .event kind (handleText i)⟩ = .ok a) ∧
      ∃ lit', (s.after ⟨compiler, now, .event kind (handleText i)⟩).Displays t lit' next source output := by
  have htouched := h.touched now
  have hevent := htouched.eventTo_handle hkind hlow hhigh
  rw [answer, after, run_event hopen]
  constructor
  · rw [sendEvent_ok hevent]
    exact ⟨_, rfl⟩
  · exact htouched.sendEvent kind (handleText i)

/-- An event on a list does nothing. -/
theorem Displays.event_list (h : s.Displays t lit next source output) (hopen : s.closed = false)
    {kind : Text} (hkind : kind ∈ EventKind.all) {k : Nat} (hk : k < t.count) (compiler : Compiler)
    (now : Int) : s.run compiler now (.event kind (handleText (next + 2 * k))) =
      (.ok (.event (s.feedback 0)), s.touched now) := by
  have htouched := h.touched now
  have hevent := htouched.eventTo_handle hkind (i := next + 2 * k) (by omega) (by omega)
  rw [run_event hopen, sendEvent_ok hevent, htouched.shows.dispatch_list htouched.sound]
  rfl

/-! ## What a step leads to -/

/-- What a step leads to from a session whose books are in order. -/
inductive Effect (s : Session) (x : Step) : Prop where
  | kept (time : Int) (hkeeps : Keeps s x) (hafter : s.after x = s.touched time)
  | sent (kind : Text) (target : Handle) (hcommand : x.command = .event kind target)
      (hafter : s.after x = ((s.touched x.now).sendEvent kind target).2)
  | blank (hblank : (s.after x).Blank)
  | shown (t : Tree) (source output : Text) (hcommand : x.command = .parse source)
      (hcompiler : x.compiler .parse source = .ok output)
      (hdisplays : (s.after x).Displays t dark s.page.document.nextHandle source output)
  | unmounted (e : DocumentError) (hanswer : s.answer x = .error (.mount e))
      (hsound : (s.after x).page.Sound) (hinert : (s.after x).page.Inert)

theorem effect_of_parsed {x : Step} (h : s.page.Sound) (hcommand : x.command = .parse source)
    (hcompiler : x.compiler .parse source = .ok output)
    (hrun : s.run x.compiler x.now x.command = (s.touched x.now).showParse source output) :
    Effect s x := by
  have htouched : (s.touched x.now).page.Sound := h
  have hanswer : s.answer x = ((s.touched x.now).showParse source output).1 := congrArg Prod.fst hrun
  have hafter : s.after x = ((s.touched x.now).showParse source output).2 := congrArg Prod.snd hrun
  cases hdump : ofDump? output with
  | none =>
    apply Effect.blank
    rw [hafter]
    exact (blank_showParse htouched source hdump).2
  | some t =>
    by_cases hheight : t.height ≤ maxHeight
    · apply Effect.shown t source output hcommand hcompiler
      rw [hafter]
      exact (displays_showParse htouched source hdump hheight).2
    · have htooHigh := showParse_tooHigh htouched source hdump hheight
      rw [← hanswer, ← hafter] at htooHigh
      exact Effect.unmounted _ htooHigh.1 htooHigh.2.1 htooHigh.2.2

/-- A parse that succeeds leaves no tree, or shows the tree of the dump with the next numbers. -/
theorem shown_of_parse {x : Step} {a : Answer} (h : s.page.Sound) (hcommand : x.command = .parse source)
    (hanswer : s.answer x = .ok a) : (s.after x).Blank ∨
      ∃ t output, (s.after x).Displays t dark s.page.document.nextHandle source output := by
  rcases run_of_asking .parse hcommand hanswer with ⟨_, output, _, hrun⟩
  have htouched : (s.touched x.now).page.Sound := h
  have hshown : ((s.touched x.now).showParse source output).1 = .ok a := by
    rw [← hanswer]
    exact (congrArg Prod.fst hrun).symm
  have hafter : s.after x = ((s.touched x.now).showParse source output).2 := congrArg Prod.snd hrun
  rw [hafter]
  cases hdump : ofDump? output with
  | none => exact Or.inl (blank_showParse htouched source hdump).2
  | some t =>
    have hheight := height_le_of_showParse htouched hdump hshown
    exact Or.inr ⟨t, output, (displays_showParse htouched source hdump hheight).2⟩

theorem effect (h : s.page.Sound) (x : Step) : Effect s x := by
  have htouched : (s.touched x.now).page.Sound := h
  cases outcome s x with
  | kept time hkeeps hafter => exact Effect.kept time hkeeps hafter
  | parsed source output hcommand hcompiler hrun =>
    exact effect_of_parsed h hcommand hcompiler hrun
  | texted source output _ hafter =>
    apply Effect.blank
    rw [hafter]
    exact blank_showText htouched source output
  | sampled name source _ hafter =>
    apply Effect.blank
    rw [hafter]
    exact blank_loadSample htouched source
  | sent kind target hcommand hrun =>
    exact Effect.sent kind target hcommand (congrArg Prod.snd hrun)

/-! ## Any run -/

/-- The books are in order, and the page is inert unless it shows the tree of the session. -/
def Steady (s : Session) : Prop :=
  s.page.Sound ∧ (s.page.Inert ∨ ∃ t lit next source output, s.Displays t lit next source output)

theorem Blank.steady (h : s.Blank) : s.Steady :=
  ⟨h.sound, Or.inl h.inert⟩

theorem Displays.steady (h : s.Displays t lit next source output) : s.Steady :=
  ⟨h.sound, Or.inr ⟨t, lit, next, source, output, h⟩⟩

/-- A session stays steady through every step. -/
theorem Steady.after (h : s.Steady) (x : Step) : (s.after x).Steady := by
  cases effect h.1 x with
  | kept time hkeeps hafter =>
    rw [hafter]
    rcases h with ⟨hsound, hinert | ⟨t, lit, next, source, output, hdisplays⟩⟩
    · exact ⟨hsound, Or.inl hinert⟩
    · exact (hdisplays.touched time).steady
  | sent kind target hcommand hafter =>
    rw [hafter]
    rcases h with ⟨hsound, hinert | ⟨t, lit, next, source, output, hdisplays⟩⟩
    · -- an inert page reacts to no event
      have htouched : (s.touched x.now).page.Sound := hsound
      rw [sendEvent_inert htouched hinert]
      exact ⟨hsound, Or.inl hinert⟩
    · rcases (hdisplays.touched x.now).sendEvent kind target with ⟨lit', hdisplays'⟩
      exact hdisplays'.steady
  | blank hblank => exact hblank.steady
  | shown t source output _ _ hdisplays => exact hdisplays.steady
  | unmounted e _ hsound hinert => exact ⟨hsound, Or.inl hinert⟩

/-- A session is steady after every run. -/
theorem Steady.afterAll (h : s.Steady) (xs : List Step) : (s.afterAll xs).Steady := by
  induction xs generalizing s with
  | nil => exact h
  | cons x xs ih => exact ih (h.after x)

/-! ## What no command changes -/

/-- The settings of a session: what no command changes. -/
def settings (s : Session) : Text × OffsetUnit × Bool :=
  (s.id, s.page.buffer.unit, s.closed)

theorem settings_showParse (s : Session) (source output : Text) :
    (s.showParse source output).2.settings = s.settings := by
  rw [showParse_eq]
  generalize (s.prepared source output).page.document.mount (renderTree (ofDump? output)) = mounted
  cases mounted with
  | error e => rfl
  | ok d =>
    cases ofDump? output with
    | none => rfl
    | some t =>
      simp only [settings, withDocument, note, bind_buffer]
      rfl

theorem settings_sendEvent (s : Session) (kind : Text) (x : Handle) :
    (s.sendEvent kind x).2.settings = s.settings := by
  cases hev : s.page.document.eventTo x kind with
  | error e => rw [sendEvent_error hev]
  | ok ev =>
    rw [sendEvent_ok hev]
    simp only [settings, dispatch_unit]

/-- No step changes the settings. -/
theorem settings_after (s : Session) (x : Step) : (s.after x).settings = s.settings := by
  cases outcome s x with
  | kept time _ hafter => rw [hafter]; rfl
  | parsed source output _ _ hrun =>
    have hafter : s.after x = ((s.touched x.now).showParse source output).2 :=
      congrArg Prod.snd hrun
    rw [hafter, settings_showParse]
    rfl
  | texted source output _ hafter => rw [hafter]; rfl
  | sampled name source _ hafter => rw [hafter]; rfl
  | sent kind target _ hrun =>
    have hafter : s.after x = ((s.touched x.now).sendEvent kind target).2 := congrArg Prod.snd hrun
    rw [hafter, settings_sendEvent]
    rfl

theorem settings_afterAll (s : Session) (xs : List Step) :
    (s.afterAll xs).settings = s.settings := by
  induction xs generalizing s with
  | nil => rfl
  | cons x xs ih => exact (ih (s.after x)).trans (settings_after s x)

theorem closed_after (s : Session) (x : Step) : (s.after x).closed = s.closed :=
  congrArg (fun settings => settings.2.2) (settings_after s x)

theorem closed_afterAll (s : Session) (xs : List Step) : (s.afterAll xs).closed = s.closed :=
  congrArg (fun settings => settings.2.2) (settings_afterAll s xs)

/-! ## A step that shows a tree -/

/-- A source of one character that parses to a tree of one node. -/
def parseProgram : Step :=
  ⟨.fixed (utf8 "Program @0..1") [] [], 1, .parse (utf8 "a")⟩

theorem ofDump?_program :
    ofDump? (utf8 "Program @0..1") = some (.node (utf8 "Program") 0 (some ⟨0, 1⟩) []) :=
  rfl

theorem answer_parseProgram (id : Text) (unit : OffsetUnit) (start : Int) :
    ∃ a, (new id unit start).answer parseProgram = .ok a :=
  (displays_of_parse (sound_new unit) rfl rfl rfl ofDump?_program (by decide)).1

theorem mounts_parseProgram (id : Text) (unit : OffsetUnit) (start : Int) :
    Mounts (new id unit start) parseProgram :=
  mounts_of_ok (answer_parseProgram id unit start)

/-- A session that shows a tree of one node. -/
def shownProgram : Session :=
  (new [] .rune 0).after parseProgram

theorem displays_shownProgram : shownProgram.Displays (.node (utf8 "Program") 0 (some ⟨0, 1⟩) []) dark 0
    (utf8 "a") (utf8 "Program @0..1") :=
  (displays_of_parse (sound_new .rune) rfl rfl rfl ofDump?_program (by decide)).2

end Session

end SyntaxPlayground
