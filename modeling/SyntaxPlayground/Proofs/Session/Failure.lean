import SyntaxPlayground.Proofs.Dump.Outline
import SyntaxPlayground.Proofs.Session.Step

/-!
# Commands that fail

A command that fails leaves the session as it was, but for the time of its last command. There is one
exception, `showParse_eq_of_tooHigh`: when the compiler dumped a tree that is too high to be mounted, the
listeners are gone, and the source and the tree are the new ones, while the tree pane, the result and the
view are still the old ones. `after_of_failure` says both for every session and every command, and
`parseTower_changes_session` is a session that shows one tree and counts the nodes of another.
-/

namespace SyntaxPlayground

namespace Session

open Document SyntaxPlayground.Tree Page

variable {s : Session} {x : Step}

/-! ## Failing to mount -/

/-- The session that is left behind when the tree of a dump cannot be mounted. -/
def halfShown (s : Session) (source : Text) (t : Tree) : Session :=
  { s with
    page := { s.page.unbind with buffer := s.page.buffer.setText source }
    tree := some t }

/-- What showing a dump does when its tree is too high. -/
theorem showParse_eq_of_tooHigh {source output : Text} {t : Tree} (hdump : ofDump? output = some t)
    (hheight : maxHeight < t.height) :
    s.showParse source output = (.error (.mount (.badMarkup .tooDeep)), s.halfShown source t) := by
  have hmount : (s.prepared source output).page.document.mount t.render =
      .error (.badMarkup .tooDeep) := by
    rw [mount_render, if_neg (Nat.not_le.mpr hheight)]
  have hprepared : s.prepared source output = s.halfShown source t := by
    unfold prepared
    rw [hdump]
    rfl
  have hrender : renderTree (some t) = t.render := rfl
  rw [showParse_eq, hdump, hrender, hmount, hprepared]

/-- Showing a dump fails only if its tree is too high. -/
theorem tooHigh_of_showParse_error {source output : Text} {e : SessionError}
    (h : (s.showParse source output).1 = .error e) :
    ∃ t, ofDump? output = some t ∧ maxHeight < t.height := by
  cases hdump : ofDump? output with
  | none =>
    -- nothing is mounted for a dump without a tree
    have hmount : (s.prepared source output).page.document.mount (renderTree (ofDump? output)) =
        .ok (s.prepared source output).page.document.clear := by
      rw [hdump]
      exact mount_nil _
    rw [showParse_eq, hmount, hdump] at h
    cases h
  | some t =>
    refine ⟨t, rfl, ?_⟩
    by_contra hheight
    have hmount := mount_render_eq_ok (d := (s.prepared source output).page.document).mpr
      ⟨Nat.not_lt.mp hheight, rfl⟩
    rw [showParse_of_mount hdump hmount] at h
    cases h

/-! ## Which command fails to mount -/

/-- A command is refused only for an unknown sample or a closed session. -/
theorem refusal?_cases {c : Command} {e : SessionError} (h : s.refusal? c = some e) :
    e = .closed ∨ ∃ u, e = .unknownSample u := by
  have hclosed : (if s.closed then some SessionError.closed else none) = some e → e = .closed := by
    intro hif
    split at hif
    · exact (Option.some.inj hif).symm
    · cases hif
  unfold refusal? at h
  -- the samples themselves do not matter
  obtain ⟨catalog, hcatalog⟩ : ∃ catalog, Catalog.builtin = catalog := ⟨_, rfl⟩
  rw [hcatalog] at h
  cases c with
  | loadSample name =>
    cases hget : catalog.get name with
    | error u =>
      simp only [hget] at h
      exact Or.inr ⟨u, (Option.some.inj h).symm⟩
    | ok sample =>
      simp only [hget] at h
      exact Or.inl (hclosed h)
  | _ => exact Or.inl (hclosed h)

theorem refusal?_ne_mount {c : Command} {m : DocumentError} : s.refusal? c ≠ some (.mount m) := by
  intro h
  rcases refusal?_cases h with hclosed | ⟨u, hsample⟩
  · cases hclosed
  · cases hsample

/-- What a session does with the reply to `tokenize` or `interpret`. -/
def relay (s : Session) (source : Text) : Except Failure Text → Except SessionError Answer × Session
  | .error f => (.error (.compiler f), s)
  | .ok output => s.showText source output

theorem execute_tokenize (compiler : Compiler) (source : Text) :
    execute compiler s (.tokenize source) = s.relay source (compiler .tokenize source) := by
  unfold execute relay
  rfl

theorem execute_interpret (compiler : Compiler) (source : Text) :
    execute compiler s (.interpret source) = s.relay source (compiler .interpret source) := by
  unfold execute relay
  rfl

/-- Showing text fails only with the compiler, and then changes nothing. -/
theorem relay_error {source : Text} {reply : Except Failure Text} {e : SessionError}
    (h : (s.relay source reply).1 = .error e) :
    (s.relay source reply).2 = s ∧ ∀ m, e ≠ .mount m := by
  cases reply with
  | error f =>
    cases h
    exact ⟨rfl, fun m => SessionError.noConfusion⟩
  | ok output => cases h

/-- How a command can fail that the session has accepted: before it changes anything, or in showing a
dump. -/
theorem execute_error_cases {compiler : Compiler} {c : Command} {e : SessionError}
    (h : (execute compiler s c).1 = .error e) :
    ((execute compiler s c).2 = s ∧ ∀ m, e ≠ .mount m) ∨
      ∃ source output, c = .parse source ∧ compiler .parse source = .ok output ∧
        execute compiler s c = s.showParse source output := by
  cases c with
  | parse source =>
    unfold execute at h ⊢
    dsimp only at h ⊢
    cases hcompiler : compiler .parse source with
    | error f =>
      rw [hcompiler] at h
      cases h
      exact Or.inl ⟨rfl, fun m => SessionError.noConfusion⟩
    | ok output => exact Or.inr ⟨source, output, rfl, hcompiler, rfl⟩
  | tokenize source =>
    rw [execute_tokenize] at h ⊢
    exact Or.inl (relay_error h)
  | interpret source =>
    rw [execute_interpret] at h ⊢
    exact Or.inl (relay_error h)
  | loadSample name =>
    left
    obtain ⟨found, hexecute⟩ := execute_loadSample compiler name
    rw [hexecute] at h ⊢
    cases found with
    | error f =>
      cases h
      exact ⟨rfl, fun m => SessionError.noConfusion⟩
    | ok sample => cases h
  | event kind target =>
    left
    unfold execute at h ⊢
    dsimp only at h ⊢
    cases hev : s.page.document.eventTo target kind with
    | error f =>
      rw [sendEvent_error hev] at h ⊢
      cases h
      exact ⟨rfl, fun m => SessionError.noConfusion⟩
    | ok ev =>
      rw [sendEvent_ok hev] at h
      cases h
  | snapshot => cases h

/-! ## What a failure leaves behind -/

/-- How a step can fail: the session stays as it was, or a dump could not be shown. -/
theorem failure_cases {e : SessionError} (h : s.answer x = .error e) :
    ((∃ time, s.after x = s.touched time) ∧ ∀ m, e ≠ .mount m) ∨
      ∃ source output t, x.command = .parse source ∧ x.compiler .parse source = .ok output ∧
        ofDump? output = some t ∧ maxHeight < t.height ∧ e = .mount (.badMarkup .tooDeep) ∧
        s.after x = (s.touched x.now).halfShown source t := by
  cases hrefusal : s.refusal? x.command with
  | some f =>
    left
    have hrun := run_of_refusal hrefusal
    have hanswer : s.answer x = .error f := congrArg Prod.fst hrun
    cases hanswer.symm.trans h
    refine ⟨⟨s.lastActive, congrArg Prod.snd hrun⟩, ?_⟩
    rintro m rfl
    exact refusal?_ne_mount hrefusal
  | none =>
    have hrun := run_of_accept hrefusal
    have hanswer := (congrArg Prod.fst hrun).symm.trans h
    have hafter : s.after x = (execute x.compiler (s.touched x.now) x.command).2 :=
      congrArg Prod.snd hrun
    rw [hafter]
    rcases execute_error_cases hanswer with ⟨hsame, hmount⟩ | ⟨source, output, hcommand, hcompiler, hshow⟩
    · exact Or.inl ⟨⟨x.now, hsame⟩, hmount⟩
    · right
      rw [hshow] at hanswer ⊢
      obtain ⟨t, hdump, hheight⟩ := tooHigh_of_showParse_error hanswer
      rw [showParse_eq_of_tooHigh hdump hheight] at hanswer ⊢
      cases hanswer
      exact ⟨source, output, t, hcommand, hcompiler, hdump, hheight, rfl, rfl⟩

/-- A command that fails leaves the session as it was, but for the time of its last command; unless it
fails to mount the tree that a compiler dumped. Then the tree is too high, and the session has the new
source and the new tree on the old page, which reacts to nothing any more. -/
theorem after_of_failure (s : Session) (x : Step) {e : SessionError} (h : s.answer x = .error e) :
    ((∀ m, e ≠ .mount m) → ∃ time, s.after x = s.touched time) ∧
    ∀ m, e = .mount m → ∃ source output t, x.command = .parse source ∧
      x.compiler .parse source = .ok output ∧ ofDump? output = some t ∧ maxHeight < t.height ∧
      s.after x = { s with
        page := { s.page.unbind with buffer := s.page.buffer.setText source }
        tree := some t
        lastActive := x.now } := by
  rcases failure_cases h with ⟨hkept, hmount⟩ | ⟨source, output, t, hcommand, hcompiler, hdump, hheight,
    rfl, hafter⟩
  · exact ⟨fun _ => hkept, fun m hm => absurd hm (hmount m)⟩
  · refine ⟨fun hmount => absurd rfl (hmount _), ?_⟩
    intro m _
    exact ⟨source, output, t, hcommand, hcompiler, hdump, hheight, hafter⟩

/-- A click on an element that is not there fails, and nothing happens. -/
theorem after_of_failure_unknownHandle :
    (new [] .rune 0).answer ⟨.fixed [] [] [], 1, .event EventKind.click (handleText 0)⟩ =
        .error (.event (.unknownElement (handleText 0))) ∧
      ∃ time, (new [] .rune 0).after ⟨.fixed [] [] [], 1, .event EventKind.click (handleText 0)⟩ =
        (new [] .rune 0).touched time := by
  have hanswer : (new [] .rune 0).answer ⟨.fixed [] [] [], 1, .event EventKind.click (handleText 0)⟩ =
      .error (.event (.unknownElement (handleText 0))) := by
    decide +kernel
  refine ⟨hanswer, ?_⟩
  exact (after_of_failure _ _ hanswer).1 fun m => SessionError.noConfusion

end Session

/-! ## A session that is left half changed -/

namespace Tree

/-- Programs inside each other, `depth` of them below the first. -/
def tower : Nat → Tree
  | 0 => node rootKind 0 none []
  | depth + 1 => node rootKind 0 none [tower depth]

theorem mem_nodes_tower {depth : Nat} {n : Tree} (h : n ∈ (tower depth).nodes) :
    n.kind = rootKind ∧ n.span = none := by
  induction depth with
  | zero =>
    rw [tower, nodes_node, List.flatMap_nil, List.mem_singleton] at h
    rw [h]
    exact ⟨rfl, rfl⟩
  | succ depth ih =>
    rw [tower, nodes_node, List.flatMap_singleton, List.mem_cons] at h
    rcases h with rfl | h
    · exact ⟨rfl, rfl⟩
    · exact ih h

theorem isDumpable_tower (depth : Nat) : (tower depth).IsDumpable := by
  have hkind : rootKind.IsKind := ⟨by decide +kernel, by decide +kernel, by decide +kernel,
    by decide +kernel⟩
  constructor
  · cases depth <;> rfl
  · intro n hn
    rw [(mem_nodes_tower hn).1]
    exact hkind
  · intro n hn s hs
    rw [(mem_nodes_tower hn).2] at hs
    cases hs

/-- The tower as a dump gives it, every program at its own level. -/
theorem height_relevel_tower (depth level : Nat) : ((tower depth).relevel level).height = depth + 1 := by
  induction depth generalizing level with
  | zero => rfl
  | succ depth ih =>
    rw [tower, relevel, relevelAll, relevelAll, height, heightAll, heightAll, ih, Nat.max_zero]

theorem count_relevel_tower (depth level : Nat) : ((tower depth).relevel level).count = depth + 1 := by
  induction depth generalizing level with
  | zero => rfl
  | succ depth ih =>
    rw [tower, relevel, relevelAll, relevelAll, count_node, List.flatMap_singleton, length_nodes, ih]

/-- The dump of a tower. -/
theorem ofDump?_tower (depth : Nat) :
    ofDump? ((tower depth).outline { plain := true }) = some ((tower depth).relevel 0) := by
  have hread := ofDump?_outline (isDumpable_tower depth) (o := { plain := true }) rfl
  unfold cut at hread
  rw [cutFrom_of_nonpos (Int.le_refl 0)] at hread
  exact hread

end Tree

namespace Session

open Document SyntaxPlayground.Tree Page

variable {s : Session} {depth : Nat}

/-- The step that parses the source `b` into a tower. -/
def parseTower (depth : Nat) : Step :=
  ⟨.fixed ((tower depth).outline { plain := true }) [] [], 2, .parse (utf8 "b")⟩

theorem run_parseTower (hopen : s.closed = false) (hdepth : maxHeight ≤ depth) :
    s.run (parseTower depth).compiler (parseTower depth).now (parseTower depth).command =
      (.error (.mount (.badMarkup .tooDeep)),
        (s.touched 2).halfShown (utf8 "b") ((tower depth).relevel 0)) := by
  have hrefusal : s.refusal? (parseTower depth).command = none := by
    unfold refusal? parseTower
    simp only [hopen, Bool.false_eq_true, if_false]
  have hheight : maxHeight < ((tower depth).relevel 0).height := by
    rw [height_relevel_tower]
    exact Nat.lt_succ_of_le hdepth
  rw [run_of_accept hrefusal]
  exact showParse_eq_of_tooHigh (ofDump?_tower depth) hheight

theorem answer_parseTower (hopen : s.closed = false) (hdepth : maxHeight ≤ depth) :
    s.answer (parseTower depth) = .error (.mount (.badMarkup .tooDeep)) := by
  unfold answer
  rw [run_parseTower hopen hdepth]

/-- The session after a tower that is too high: the new source and the new tree on the old page. -/
theorem snapshot_parseTower (hopen : s.closed = false) (hdepth : maxHeight ≤ depth) :
    (s.after (parseTower depth)).snapshot = { s.snapshot with
      source := utf8 "b"
      nodes := depth + 1
      selection := {}
      selected := []
      interactive := false } := by
  have hafter : s.after (parseTower depth) =
      (s.touched 2).halfShown (utf8 "b") ((tower depth).relevel 0) :=
    congrArg Prod.snd (run_parseTower hopen hdepth)
  have hselected : (s.page.buffer.setText (utf8 "b")).selected = [] := by
    unfold Buffer.selected Buffer.setText
    simp only [min_self, max_self, List.drop_take, Nat.sub_self, List.take_zero]
  rw [hafter]
  unfold snapshot
  simp only [halfShown, touched, Option.map_some, Option.getD_some, count_relevel_tower, hselected]
  rfl

theorem after_parseTower_ne_touched (hopen : s.closed = false) (htext : s.page.buffer.text = utf8 "a")
    (hdepth : maxHeight ≤ depth) (time : Int) : s.after (parseTower depth) ≠ s.touched time := by
  intro hkept
  have hsnapshot := snapshot_parseTower hopen hdepth
  rw [hkept] at hsnapshot
  -- the source of before and the source of the step would be one
  have hnew : s.page.buffer.text = utf8 "b" := congrArg Snapshot.source hsnapshot
  have hsame : utf8 "a" = utf8 "b" := htext.symm.trans hnew
  revert hsame
  decide +kernel

/-- A command that fails can change the session: after a tree was shown for the source `a`, parsing `b`
into a tree that is too high is an error, and yet the source is `b` and the nodes are counted in the new
tree, while the page still has the old one and reacts to nothing. -/
theorem parseTower_changes_session :
    shownProgram.answer (parseTower 510) = .error (.mount (.badMarkup .tooDeep)) ∧
      (∀ time, shownProgram.after (parseTower 510) ≠ shownProgram.touched time) ∧
      shownProgram.snapshot.source = utf8 "a" ∧ shownProgram.snapshot.nodes = 1 ∧
      (shownProgram.after (parseTower 510)).snapshot = { shownProgram.snapshot with
        source := utf8 "b"
        nodes := 511
        selection := {}
        selected := []
        interactive := false } := by
  have hopen : shownProgram.closed = false := closed_after _ _
  have hdepth : maxHeight ≤ 510 := by decide
  refine ⟨answer_parseTower hopen hdepth,
    after_parseTower_ne_touched hopen displays_shownProgram.text hdepth,
    displays_shownProgram.text, ?_, snapshot_parseTower hopen hdepth⟩
  unfold snapshot
  rw [displays_shownProgram.tree]
  rfl

end Session

end SyntaxPlayground
