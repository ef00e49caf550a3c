import SyntaxPlayground.Proofs.Page.Light
import SyntaxPlayground.Proofs.Session.Click

/-!
# What events answer

An event of an unknown kind, or on an element that is not there, is refused. An event on a label of the
tree that is shown lights the list of the label's node or not, and a click picks the span of the node
(`Displays.event_label`).
-/

namespace SyntaxPlayground

namespace Buffer

/-- The buffer after the span of a node was picked. A span that does not fit is not selected. -/
def picked (b : Buffer) : Option Span → Buffer
  | none => b
  | some s =>
    match b.select s.start s.stop with
    | .ok b' => b'
    | .error _ => b

/-- The buffer after a reaction at the label of a node with the given span. -/
def reacted (b : Buffer) (r : Reaction) (s : Option Span) : Buffer :=
  match r with
  | .pick => b.picked s
  | .hoverIn | .hoverOut => b

theorem reacted_of_ne {b : Buffer} {r : Reaction} (hr : r ≠ .pick) (s : Option Span) :
    b.reacted r s = b := by
  cases r with
  | hoverIn => rfl
  | hoverOut => rfl
  | pick => exact absurd rfl hr

end Buffer

namespace Page

open Document SyntaxPlayground.Tree

variable {p : Page} {t : Tree} {lit : Nat → Bool} {next : Nat}

theorem eq_click_of_reactionTo {kind : Text} (hkind : kind ∈ EventKind.all)
    (hpick : reactionTo kind = .pick) : kind = EventKind.click := by
  simp only [EventKind.all, List.mem_cons, List.not_mem_nil, or_false] at hkind
  have hleaveEnter : EventKind.mouseLeave ≠ EventKind.mouseEnter := by decide +kernel
  rcases hkind with rfl | rfl | rfl
  · rw [reactionTo, if_pos rfl] at hpick
    cases hpick
  · rw [reactionTo, if_neg hleaveEnter, if_pos rfl] at hpick
    cases hpick
  · rfl

theorem selectSpan_buffer (p : Page) (s : Span) :
    (p.selectSpan s.start s.stop).buffer = p.buffer.picked (some s) := by
  unfold selectSpan Buffer.picked
  simp only
  cases p.buffer.select s.start s.stop <;> rfl

/-- What a reaction at the label of a node does to the buffer. -/
theorem Shows.react_buffer (h : p.Shows t lit next) {k : Nat} {n : Tree} (hk : t.nodes[k]? = some n)
    (hrange : ∀ s, n.span = some s → s.InRange) (r : Reaction) (kind : Text) :
    (p.react r ⟨kind, .element (handleText (next + 2 * k + 1))⟩).buffer = p.buffer.reacted r n.span := by
  unfold Page.react
  simp only [h.enclosing?_label hk]
  cases r with
  | hoverIn => rfl
  | hoverOut => rfl
  | pick =>
    simp only [h.pick_list hk hrange, Buffer.reacted]
    cases n.span with
    | none => rfl
    | some s => exact selectSpan_buffer p s

end Page

namespace Session

open Document SyntaxPlayground.Tree Page

variable {s : Session} {t : Tree} {lit : Nat → Bool} {next : Nat} {source output : Text}

/-! ## Events that are refused -/

theorem run_event_unsupported (hopen : s.closed = false) {kind : Text} (hkind : kind ∉ EventKind.all)
    (compiler : Compiler) (now : Int) (x : Handle) :
    s.run compiler now (.event kind x) =
      (.error (.event (.unsupportedKind kind)), s.touched now) := by
  have hevent : (s.touched now).page.document.eventTo x kind = .error (.unsupportedKind kind) := by
    unfold eventTo
    rw [if_neg (fun hcontains => hkind (List.contains_iff_mem.mp hcontains))]
  rw [run_event hopen, sendEvent_error hevent]

theorem run_event_unknown (hopen : s.closed = false) (hsound : s.page.Sound) {kind : Text}
    (hkind : kind ∈ EventKind.all) {x : Handle} (hx : x ∉ handlesIn s.page.document.content)
    (compiler : Compiler) (now : Int) :
    s.run compiler now (.event kind x) = (.error (.event (.unknownElement x)), s.touched now) := by
  have hevent : (s.touched now).page.document.eventTo x kind = .error (.unknownElement x) := by
    -- the handles that resolve are those in the tree pane
    have hnone : ¬ (s.touched now).page.document.handles.contains x = true := by
      rw [← hsound.handles] at hx
      rw [List.contains_iff_mem]
      exact hx
    unfold eventTo resolve
    rw [if_pos (List.contains_iff_mem.mpr hkind), if_neg hnone]
    rfl
  rw [run_event hopen, sendEvent_error hevent]

/-! ## Events on labels -/

/-- What an event on the label of a node leads to. -/
structure Reacted (s s' : Session) (t : Tree) (lit : Nat → Bool) (next k : Nat) (r : Reaction)
    (source output : Text) : Prop where
  displays : s'.Displays t (litAfter r lit (next + 2 * k)) next source output
  buffer : ∃ n, t.nodes[k]? = some n ∧ s'.page.buffer = s.page.buffer.reacted r n.span

/-- An event on a label runs the one reaction for its kind. -/
theorem Displays.event_label (h : s.Displays t lit next source output) (hopen : s.closed = false)
    {kind : Text} (hkind : kind ∈ EventKind.all) {k : Nat} (hk : k < t.count) (compiler : Compiler)
    (now : Int) : ∃ s',
      s.run compiler now (.event kind (handleText (next + 2 * k + 1))) =
        (.ok (.event (s'.feedback 1)), s') ∧
      Reacted s s' t lit next k (reactionTo kind) source output := by
  have htouched := h.touched now
  have hevent := htouched.eventTo_handle hkind (i := next + 2 * k + 1) (by omega) (by omega)
  have hdispatch := htouched.shows.dispatch_label htouched.sound hkind hk
  rw [← length_nodes] at hk
  have hnode := List.getElem?_eq_getElem hk
  -- the tree was read from a dump, so the numbers of its spans can be read back from the attributes
  have hrange := (isDumpable_of_ofDump? h.dump).spans _ (List.getElem_mem hk)
  have hbuffer := htouched.shows.react_buffer hnode hrange (reactionTo kind) kind
  rcases htouched.shows.react hnode (reactionTo kind) kind with ⟨selection, log, hreact⟩
  let ev : Event := ⟨kind, .element (handleText (next + 2 * k + 1))⟩
  refine ⟨{ s.touched now with page := (s.touched now).page.react (reactionTo kind) ev }, ?_, ?_, _,
    hnode, hbuffer⟩
  · rw [run_event hopen, sendEvent_ok hevent, hdispatch]
  · simp only [ev, hreact]
    exact htouched.relight _ selection log

end Session

end SyntaxPlayground
