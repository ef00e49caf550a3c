import SyntaxPlayground.Proofs.Page.Binding

/-!
# Events on a page

A page that shows a tree answers an event on a label with the one reaction for its kind
(`Shows.dispatch_label`), and an event on a list with nothing (`Shows.dispatch_list`). Hovering lights
the list around the label or not, and a click picks its span; everything else stays as it is, so the
page goes on showing the tree (`Shows.dispatch`).
-/

namespace SyntaxPlayground

namespace Page

open Document SyntaxPlayground.Tree

variable {p : Page} {t : Tree} {lit : Nat → Bool} {next : Nat}

/-! ## What reactions leave alone -/

/-- Picking changes the selection and the log at most. -/
theorem pick_frame (p : Page) (node : Target) : ∃ selection log,
    p.pick node = { p with buffer := { p.buffer with selection := selection }, log := log } := by
  unfold pick
  simp only
  split
  · exact ⟨p.buffer.selection, p.log, rfl⟩
  · split
    · unfold selectSpan Buffer.select
      split
      · rename_i hselect
        split at hselect
        · cases hselect
        · cases hselect
          exact ⟨_, _, rfl⟩
      · exact ⟨p.buffer.selection, _, rfl⟩
    · exact ⟨p.buffer.selection, _, rfl⟩

theorem updateAttrs_registry (d : Document) (target : Target) (f : Attributes → Attributes) :
    (d.updateAttrs target f).registry = d.registry := by
  cases target <;> rfl

/-- No handler changes the listeners or what offsets count. -/
theorem handle_frame (h : Handler) (ev : Event) (p : Page) :
    (p.handle h ev).document.registry = p.document.registry ∧
      (p.handle h ev).buffer.unit = p.buffer.unit := by
  cases h with
  | script name actions => exact ⟨rfl, rfl⟩
  | reaction r =>
    unfold handle react
    simp only
    split
    · exact ⟨rfl, rfl⟩
    · rename_i node _
      cases r with
      | hoverIn => exact ⟨updateAttrs_registry _ _ _, rfl⟩
      | hoverOut => exact ⟨updateAttrs_registry _ _ _, rfl⟩
      | pick =>
        rcases pick_frame p node with ⟨selection, log, hpick⟩
        rw [hpick]
        exact ⟨rfl, rfl⟩

/-- An event runs the handlers that wait for it. -/
theorem dispatch_eq (p : Page) (ev : Event) :
    p.dispatch ev = ((p.document.registry.waiting ev).length,
      (p.document.registry.waiting ev).foldl (fun p h => p.handle h ev) p) :=
  Registry.dispatchWith_eq (fun h ev p => (handle_frame h ev p).1) ev p

theorem dispatch_unit (p : Page) (ev : Event) :
    (p.dispatch ev).2.buffer.unit = p.buffer.unit := by
  rw [dispatch_eq]
  simp only
  -- whichever handlers they are, each leaves the unit alone
  generalize p.document.registry.waiting ev = handlers
  induction handlers generalizing p with
  | nil => rfl
  | cons h handlers ih =>
    rw [List.foldl_cons, ih]
    exact (handle_frame h ev p).2

/-- Nothing happens on a page without listeners. -/
theorem Inert.dispatch (hinert : p.Inert) (hsound : p.Sound) (ev : Event) :
    p.dispatch ev = (0, p) := by
  have hwaiting : p.document.registry.waiting ev = [] := by
    rw [hsound.registry.waiting_eq, hinert]
    rfl
  rw [dispatch_eq, hwaiting]
  rfl

/-! ## Who waits for an event -/

theorem target_of_mem_bindings {l : Listener} {h : Handle} (hl : l ∈ bindings h) :
    l.target = .element h := by
  simp only [bindings, List.mem_cons, List.not_mem_nil, or_false] at hl
  rcases hl with rfl | rfl | rfl <;> rfl

theorem filter_bindings_of_notMem (labels : List Handle) (ev : Event)
    (h : ∀ x ∈ labels, ev.target ≠ .element x) :
    (labels.flatMap bindings).filter (fun l => l.target = ev.target ∧ l.kind = ev.kind) = [] := by
  rw [List.filter_eq_nil_iff]
  intro l hl hmatch
  rcases List.mem_flatMap.mp hl with ⟨x, hx, hlx⟩
  rw [decide_eq_true_eq, target_of_mem_bindings hlx] at hmatch
  exact h x hx hmatch.1.symm

/-- Of the listeners on some labels those of one of them wait for an event there. -/
theorem filter_bindings_of_mem {labels : List Handle} (hnodup : labels.Nodup) {x : Handle}
    (hx : x ∈ labels) (kind : Text) :
    (labels.flatMap bindings).filter (fun l => l.target = .element x ∧ l.kind = kind) =
      (bindings x).filter (·.kind = kind) := by
  induction labels with
  | nil => exact absurd hx List.not_mem_nil
  | cons y labels ih =>
    rw [List.nodup_cons] at hnodup
    rw [List.flatMap_cons, List.filter_append]
    by_cases hxy : x = y
    · -- the label stands here, so it does not come again
      have htail := filter_bindings_of_notMem labels ⟨kind, .element x⟩ (by
        intro z hz heq
        have hzx : x = z := Target.element.inj heq
        exact hnodup.1 (hxy ▸ hzx ▸ hz))
      rw [htail, List.append_nil, ← hxy]
      apply List.filter_congr
      intro l hl
      simp only [target_of_mem_bindings hl, true_and]
    · have hhead := filter_bindings_of_notMem [y] ⟨kind, .element x⟩ (by
        intro z hz heq
        rw [List.mem_singleton.mp hz] at heq
        exact hxy (Target.element.inj heq))
      rw [List.flatMap_cons, List.flatMap_nil, List.append_nil] at hhead
      rcases List.mem_cons.mp hx with hxy' | hx
      · exact absurd hxy' hxy
      · rw [hhead, List.nil_append, ih hnodup.2 hx]

/-- What the playground does about an event of a kind that pages know. -/
def reactionTo (kind : Text) : Reaction :=
  if kind = EventKind.mouseEnter then .hoverIn
  else if kind = EventKind.mouseLeave then .hoverOut
  else .pick

theorem handlers_bindings {kind : Text} (hkind : kind ∈ EventKind.all) (x : Handle) :
    ((bindings x).filter (·.kind = kind)).map Listener.handler = [.reaction (reactionTo kind)] := by
  have henterLeave : EventKind.mouseEnter ≠ EventKind.mouseLeave := by decide +kernel
  have henterClick : EventKind.mouseEnter ≠ EventKind.click := by decide +kernel
  have hleaveClick : EventKind.mouseLeave ≠ EventKind.click := by decide +kernel
  simp only [EventKind.all, List.mem_cons, List.not_mem_nil, or_false] at hkind
  rcases hkind with rfl | rfl | rfl
  · simp [bindings, reactionTo, henterLeave.symm, henterClick.symm]
  · simp [bindings, reactionTo, henterLeave, henterLeave.symm, hleaveClick.symm]
  · simp [bindings, reactionTo, henterClick, henterClick.symm, hleaveClick, hleaveClick.symm]

theorem nodup_labelHandles (next count : Nat) : (labelHandles next count).Nodup :=
  nodup_map_handleText (List.nodup_range' 2)

theorem getElem?_labelHandles {next count k : Nat} (hk : k < count) :
    (labelHandles next count)[k]? = some (handleText (next + 2 * k + 1)) := by
  unfold labelHandles
  rw [List.getElem?_map, List.getElem?_range' hk, Option.map_some, Nat.add_right_comm]

theorem mem_labelHandles {next count : Nat} {h : Handle} :
    h ∈ labelHandles next count ↔ ∃ k < count, h = handleText (next + 2 * k + 1) := by
  unfold labelHandles
  rw [List.mem_map]
  constructor
  · rintro ⟨i, hi, rfl⟩
    rcases List.mem_range'.mp hi with ⟨k, hk, rfl⟩
    exact ⟨k, hk, by rw [Nat.add_right_comm]⟩
  · rintro ⟨k, hk, rfl⟩
    exact ⟨next + 1 + 2 * k, List.mem_range'.mpr ⟨k, hk, rfl⟩, by rw [Nat.add_right_comm]⟩

/-! ## Events on labels and lists -/

theorem Shows.waiting_eq (h : p.Shows t lit next) (hsound : p.Sound) (ev : Event) :
    p.document.registry.waiting ev = (((labelHandles next t.count).flatMap bindings).filter
      fun l => l.target = ev.target ∧ l.kind = ev.kind).map Listener.handler := by
  rw [hsound.registry.waiting_eq, h.listeners, List.filter_reverse, List.map_reverse,
    List.reverse_reverse]

/-- An event on a list finds no listener. -/
theorem Shows.dispatch_list (h : p.Shows t lit next) (hsound : p.Sound) (kind : Text) (k : Nat) :
    p.dispatch ⟨kind, .element (handleText (next + 2 * k))⟩ = (0, p) := by
  have hnone : p.document.registry.waiting ⟨kind, .element (handleText (next + 2 * k))⟩ = [] := by
    rw [h.waiting_eq hsound, filter_bindings_of_notMem]
    · rfl
    · intro x hx heq
      rcases mem_labelHandles.mp hx with ⟨j, _, rfl⟩
      have hnumber := handleText_injective (Target.element.inj heq)
      omega
  rw [dispatch_eq, hnone]
  rfl

/-- An event on a label runs the one reaction for its kind. -/
theorem Shows.dispatch_label (h : p.Shows t lit next) (hsound : p.Sound) {kind : Text}
    (hkind : kind ∈ EventKind.all) {k : Nat} (hk : k < t.count) :
    p.dispatch ⟨kind, .element (handleText (next + 2 * k + 1))⟩ =
      (1, p.react (reactionTo kind) ⟨kind, .element (handleText (next + 2 * k + 1))⟩) := by
  have hone : p.document.registry.waiting ⟨kind, .element (handleText (next + 2 * k + 1))⟩ =
      [.reaction (reactionTo kind)] := by
    have hmem : handleText (next + 2 * k + 1) ∈ labelHandles next t.count :=
      mem_labelHandles.mpr ⟨k, hk, rfl⟩
    rw [h.waiting_eq hsound, filter_bindings_of_mem (nodup_labelHandles _ _) hmem,
      handlers_bindings hkind]
  rw [dispatch_eq, hone]
  rfl

/-- The list of a node is the node around its label. -/
theorem Shows.enclosing?_label (h : p.Shows t lit next) {k : Nat} {n : Tree}
    (hk : t.nodes[k]? = some n) :
    enclosing? p.document (.element (handleText (next + 2 * k + 1))) =
      some (.element (handleText (next + 2 * k))) := by
  have hclass : p.document.hasClass (.element (handleText (next + 2 * k))) Vocabulary.node = true := by
    unfold Document.hasClass
    rw [attrs?_list h.content hk]
    exact hasClass_node_list _ _ _
  unfold enclosing?
  rw [parent_label h.content hk]
  simp only [hclass, if_true]

/-- A change to the class list of one node's list. -/
theorem Shows.updateAttrs (h : p.Shows t lit next) (f : Attributes → Attributes) {on : Bool}
    (hf : ∀ lit number s, f (mountedAttributes lit number s) = mountedAttributes on number s)
    (k : Nat) :
    p.document.updateAttrs (.element (handleText (next + 2 * k))) f =
      { p.document with content := [t.mounted (switch lit (next + 2 * k) on) next] } := by
  have hcontent : updateInAll (handleText (next + 2 * k)) f p.document.content =
      [t.mounted (switch lit (next + 2 * k) on) next] := by
    rw [h.content, updateInAll, updateInAll, updateIn_mounted hf lit t (by omega)]
  have hdetached : updateInAll (handleText (next + 2 * k)) f p.document.detached =
      p.document.detached := by
    -- what was taken out of the page has older numbers
    apply updateInAll_eq_self
    intro hmem
    rcases h.older _ hmem with ⟨i, hi, heq⟩
    have hnumber := handleText_injective heq
    omega
  unfold Document.updateAttrs
  simp only [hcontent, hdetached]

/-- Which lists are lit after a reaction at the label of the list under the given number. -/
def litAfter (r : Reaction) (lit : Nat → Bool) (number : Nat) : Nat → Bool :=
  match r with
  | .hoverIn => switch lit number true
  | .hoverOut => switch lit number false
  | .pick => lit

/-- What a reaction to an event on a label does: it may light the list or not, and move the
selection. -/
theorem Shows.react (h : p.Shows t lit next) {k : Nat} {n : Tree} (hk : t.nodes[k]? = some n)
    (r : Reaction) (kind : Text) : ∃ selection log,
      p.react r ⟨kind, .element (handleText (next + 2 * k + 1))⟩ =
        { p with
          document := { p.document with content := [t.mounted (litAfter r lit (next + 2 * k)) next] }
          buffer := { p.buffer with selection := selection }
          log := log } := by
  have henclosing := h.enclosing?_label hk
  unfold Page.react
  simp only [henclosing]
  cases r with
  | hoverIn =>
    refine ⟨p.buffer.selection, p.log, ?_⟩
    simp only [h.updateAttrs (·.addClass Vocabulary.highlight) addClass_list k]
    rfl
  | hoverOut =>
    refine ⟨p.buffer.selection, p.log, ?_⟩
    simp only [Document.removeClass,
      h.updateAttrs (·.removeClass Vocabulary.highlight) removeClass_list k]
    rfl
  | pick =>
    rcases pick_frame p (.element (handleText (next + 2 * k))) with ⟨selection, log, hpick⟩
    -- a click lights nothing
    refine ⟨selection, log, ?_⟩
    have hcontent : [t.mounted (litAfter .pick lit (next + 2 * k)) next] = p.document.content :=
      h.content.symm
    simp only [hpick, hcontent]

/-! ## Any event -/

/-- The handles of a mounted tree belong to the lists and labels of its nodes. -/
theorem exists_of_mem_handlesIn {x : Handle} (hx : x ∈ handlesIn [t.mounted lit next]) :
    ∃ (k : Nat) (n : Tree), t.nodes[k]? = some n ∧
      (x = handleText (next + 2 * k) ∨ x = handleText (next + 2 * k + 1)) := by
  rcases mem_handlesIn_mounted.mp hx with ⟨i, hlow, hhigh, rfl⟩
  have hlt : (i - next) / 2 < t.nodes.length := by
    rw [length_nodes]
    omega
  refine ⟨(i - next) / 2, t.nodes[(i - next) / 2], List.getElem?_eq_getElem hlt, ?_⟩
  -- lists and labels take turns
  rcases Nat.mod_two_eq_zero_or_one (i - next) with heven | hodd
  · left
    congr 1
    omega
  · right
    congr 1
    omega

/-- The handles that resolve belong to the lists and labels of the tree. -/
theorem Shows.exists_of_resolve (h : p.Shows t lit next) (hsound : p.Sound) {x : Handle}
    {target : Target} (hresolve : p.document.resolve x = .ok target) :
    target = .element x ∧ ∃ (k : Nat) (n : Tree), t.nodes[k]? = some n ∧
      (x = handleText (next + 2 * k) ∨ x = handleText (next + 2 * k + 1)) := by
  unfold resolve at hresolve
  split at hresolve
  · rename_i hmem
    cases hresolve
    rw [List.contains_iff_mem, hsound.handles, h.content] at hmem
    exact ⟨rfl, exists_of_mem_handlesIn hmem⟩
  · cases hresolve

/-- Lighting lists leaves the books in order. -/
theorem Sound.relight (hsound : p.Sound) (hcontent : p.document.content = [t.mounted lit next])
    (lit' : Nat → Bool) (selection : Selection) (log : List Notice) :
    Sound { p with
      document := { p.document with content := [t.mounted lit' next] }
      buffer := { p.buffer with selection := selection }
      log := log } := by
  have hhandles : handlesIn [t.mounted lit' next] = handlesIn p.document.content := by
    rw [hcontent, handlesIn_mounted, handlesIn_mounted]
  refine ⟨hsound.registry, hsound.bound, ?_, ?_⟩
  · exact hsound.handles.trans hhandles.symm
  · intro x hx
    apply hsound.numbered x
    rw [mem_handlesIn_append] at hx ⊢
    rw [← hhandles]
    exact hx

/-- Whatever event is sent, the page goes on showing the tree; only lights, the selection and the log
change. -/
theorem Shows.dispatch (h : p.Shows t lit next) (hsound : p.Sound) {x : Handle} {kind : Text}
    {ev : Event} (hev : p.document.eventTo x kind = .ok ev) : ∃ lit' selection log,
      (p.dispatch ev).2 = { p with
        document := { p.document with content := [t.mounted lit' next] }
        buffer := { p.buffer with selection := selection }
        log := log } := by
  unfold eventTo at hev
  split at hev
  · rename_i hkind
    cases hresolve : p.document.resolve x with
    | error e => rw [hresolve] at hev; cases hev
    | ok target =>
      rw [hresolve] at hev
      cases hev
      rcases h.exists_of_resolve hsound hresolve with ⟨rfl, k, n, hk, rfl | rfl⟩
      · rw [h.dispatch_list hsound]
        refine ⟨lit, p.buffer.selection, p.log, ?_⟩
        simp only [← h.content]
      · have hlt := lt_count_of_getElem? hk
        rw [h.dispatch_label hsound (List.contains_iff_mem.mp hkind) hlt]
        rcases h.react hk (reactionTo kind) kind with ⟨selection, log, hreact⟩
        exact ⟨_, selection, log, hreact⟩
  · cases hev

end Page

end SyntaxPlayground
