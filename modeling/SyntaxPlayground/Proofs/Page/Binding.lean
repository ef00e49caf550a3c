import SyntaxPlayground.Page.Basic
import SyntaxPlayground.Proofs.Page.Mount
import SyntaxPlayground.Proofs.Page.Registry

/-!
# Binding a page

What unbinding, clearing, mounting and binding do to the bookkeeping of a page: which handles resolve,
which numbers were given, and which listeners there are. `Page.Sound` says that the books are in order.
Every page of a session is sound, whatever its commands were and also after a tree could not be
mounted. A page that shows a tree, `Page.Shows`, has three listeners on each label besides.
-/

namespace SyntaxPlayground

namespace Page

open Document SyntaxPlayground.Tree

/-- The books of a page are in order: every listener is the playground's own, the handles that resolve
are those in the tree pane, and every handle on or off the page has a number that was given. -/
structure Sound (p : Page) : Prop where
  registry : p.document.registry.Consistent
  bound : p.bound = p.document.registry.listeners.map Prod.fst
  handles : p.document.handles = handlesIn p.document.content
  numbered : ∀ h ∈ handlesIn (p.document.content ++ p.document.detached),
    ∃ i < p.document.nextHandle, h = handleText i

/-- The listeners on a label. -/
def bindings (h : Handle) : List Listener :=
  [⟨.element h, EventKind.mouseEnter, .reaction .hoverIn⟩,
    ⟨.element h, EventKind.mouseLeave, .reaction .hoverOut⟩,
    ⟨.element h, EventKind.click, .reaction .pick⟩]

/-- The page shows a tree, numbered from `next` on, with listeners on its labels. -/
structure Shows (p : Page) (t : Tree) (lit : Nat → Bool) (next : Nat) : Prop where
  content : p.document.content = [t.mounted lit next]
  listeners : p.document.registry.listeners.map Prod.snd =
    ((labelHandles next t.count).flatMap bindings).reverse
  given : next + 2 * t.count ≤ p.document.nextHandle
  older : ∀ h ∈ handlesIn p.document.detached, ∃ i < next, h = handleText i

/-- The page reacts to nothing. -/
def Inert (p : Page) : Prop :=
  p.document.registry.listeners = []

variable {p : Page}

theorem sound_new (unit : OffsetUnit) : Sound { buffer := { unit } } := by
  refine ⟨Registry.consistent_empty, rfl, rfl, ?_⟩
  intro h hh
  exact absurd hh List.not_mem_nil

/-- The books say nothing about the source, the result and the view. -/
theorem Sound.of_same_books {q : Page} (h : p.Sound)
    (hdocument : q.document = { p.document with
      result := q.document.result
      mode := q.document.mode
      treeAttrs := q.document.treeAttrs
      resultAttrs := q.document.resultAttrs })
    (hbound : q.bound = p.bound) : q.Sound := by
  constructor
  · rw [hdocument]
    exact h.registry
  · rw [hdocument, hbound]
    exact h.bound
  · rw [hdocument]
    exact h.handles
  · rw [hdocument]
    exact h.numbered

/-! ## Unbinding -/

/-- Unbinding takes off every listener and leaves the rest of the books alone. -/
theorem Sound.unbind (h : p.Sound) : p.unbind.Sound ∧ p.unbind.Inert := by
  have hremoved := Registry.foldl_remove h.registry rfl
  rw [← h.bound] at hremoved
  have hlisteners : p.unbind.document.registry.listeners = [] := hremoved.2
  refine ⟨⟨hremoved.1, ?_, h.handles, h.numbered⟩, hlisteners⟩
  rw [hlisteners]
  rfl

theorem Inert.bound (h : p.Inert) (hsound : p.Sound) : p.bound = [] := by
  rw [hsound.bound, h]
  rfl

/-! ## Clearing and mounting -/

theorem handlesIn_append (ms ms' : List Markup) :
    handlesIn (ms ++ ms') = handlesIn ms ++ handlesIn ms' := by
  unfold handlesIn
  rw [Markup.elementsAll_append, List.filterMap_append]

theorem mem_handlesIn_append {h : Handle} {ms ms' : List Markup} :
    h ∈ handlesIn (ms ++ ms') ↔ h ∈ handlesIn ms ∨ h ∈ handlesIn ms' := by
  rw [handlesIn_append, List.mem_append]

/-- If the handles that resolve are those in the tree pane, none resolves once it is emptied. -/
theorem handles_clear_of_eq {d : Document} (h : d.handles = handlesIn d.content) :
    d.clear.handles = [] := by
  have hfilter : d.clear.handles = d.handles.filter
      fun x => !(Std.HashSet.ofList (handlesIn d.content)).contains x := rfl
  rw [hfilter, h, List.filter_eq_nil_iff]
  intro x hx
  rw [Std.HashSet.contains_ofList, List.contains_iff_mem.mpr hx]
  exact Bool.false_ne_true

/-- No handle resolves in an empty tree pane. -/
theorem Sound.handles_clear (h : p.Sound) : p.document.clear.handles = [] :=
  handles_clear_of_eq h.handles

theorem Sound.detached_clear (h : p.Sound) :
    ∀ x ∈ handlesIn p.document.clear.detached, ∃ i < p.document.nextHandle, x = handleText i := by
  intro x hx
  apply h.numbered x
  rw [mem_handlesIn_append]
  exact (mem_handlesIn_append.mp hx).symm

theorem Sound.clear (h : p.Sound) : Sound { p with document := p.document.clear } := by
  refine ⟨h.registry, h.bound, h.handles_clear, ?_⟩
  intro x hx
  exact h.detached_clear x hx

theorem mem_handlesIn_mounted {t : Tree} {lit : Nat → Bool} {next : Nat} {h : Handle} :
    h ∈ handlesIn [t.mounted lit next] ↔
      ∃ i, next ≤ i ∧ i < next + 2 * t.count ∧ h = handleText i := by
  rw [handlesIn_mounted, List.mem_map]
  constructor
  · rintro ⟨i, hi, rfl⟩
    exact ⟨i, (List.mem_range'_1.mp hi).1, (List.mem_range'_1.mp hi).2, rfl⟩
  · rintro ⟨i, hlow, hhigh, rfl⟩
    exact ⟨i, List.mem_range'_1.mpr ⟨hlow, hhigh⟩, rfl⟩

/-- Mounting a tree gives it the next numbers. -/
theorem Sound.showing (h : p.Sound) (t : Tree) :
    Sound { p with document := p.document.showing t } := by
  refine ⟨h.registry, h.bound, ?_, ?_⟩
  · have hhandles : (p.document.showing t).handles = p.document.clear.handles ++
        (List.range' p.document.nextHandle (2 * t.count)).map handleText := rfl
    have hcontent : (p.document.showing t).content = [t.mounted dark p.document.nextHandle] := rfl
    rw [hhandles, h.handles_clear, hcontent, handlesIn_mounted]
    rfl
  · intro x hx
    have hnext : (p.document.showing t).nextHandle = p.document.nextHandle + 2 * t.count := rfl
    rw [hnext]
    -- what is in the tree pane has the new numbers, and what was there before has older ones
    rcases mem_handlesIn_append.mp hx with hnew | hold
    · rcases mem_handlesIn_mounted.mp hnew with ⟨i, _, hi, rfl⟩
      exact ⟨i, hi, rfl⟩
    · rcases h.detached_clear x hold with ⟨i, hi, rfl⟩
      exact ⟨i, by omega, rfl⟩

/-! ## Binding -/

/-- The page with one more listener of its own. -/
def enlist (p : Page) (l : Listener) : Page :=
  { p with document := (p.document.listen l).2, bound := (p.document.listen l).1 :: p.bound }

theorem bindLabel_eq (p : Page) (h : Handle) : p.bindLabel h = (bindings h).foldl enlist p :=
  rfl

theorem foldl_bindLabel (p : Page) (labels : List Handle) :
    labels.foldl bindLabel p = (labels.flatMap bindings).foldl enlist p := by
  induction labels generalizing p with
  | nil => rfl
  | cons h labels ih =>
    rw [List.foldl_cons, ih, bindLabel_eq, List.flatMap_cons, List.foldl_append]

theorem Sound.enlist (h : p.Sound) (l : Listener) : (p.enlist l).Sound := by
  refine ⟨h.registry.add l, ?_, h.handles, h.numbered⟩
  have hbound : (p.enlist l).bound = (p.document.registry.last + 1) :: p.bound := rfl
  rw [hbound, h.bound]
  rfl

/-- Adding listeners changes nothing but the listeners. -/
structure Enlisted (p q : Page) (ls : List Listener) : Prop where
  sound : q.Sound
  listeners : q.document.registry.listeners.map Prod.snd =
    ls.reverse ++ p.document.registry.listeners.map Prod.snd
  document : q.document = { p.document with registry := q.document.registry }
  buffer : q.buffer = p.buffer
  log : q.log = p.log

theorem Sound.foldl_enlist (h : p.Sound) (ls : List Listener) :
    Enlisted p (ls.foldl Page.enlist p) ls := by
  induction ls generalizing p with
  | nil => exact ⟨h, rfl, rfl, rfl, rfl⟩
  | cons l ls ih =>
    have hrest := ih (h.enlist l)
    rw [List.foldl_cons]
    refine ⟨hrest.sound, ?_, ?_, hrest.buffer, hrest.log⟩
    · rw [hrest.listeners, List.reverse_cons, List.append_assoc]
      rfl
    · rw [hrest.document]
      rfl

theorem foldl_bindLabel_buffer (p : Page) (labels : List Handle) :
    (labels.foldl bindLabel p).buffer = p.buffer := by
  induction labels generalizing p with
  | nil => rfl
  | cons h labels ih => exact ih (p.bindLabel h)

/-- Binding never touches the source. -/
theorem bind_buffer (p : Page) : p.bind.2.buffer = p.buffer :=
  foldl_bindLabel_buffer p.unbind _

/-- Binding a page that has no listeners puts three on every label. -/
theorem Sound.bind (h : p.Sound) (hinert : p.Inert) {t : Tree} {lit : Nat → Bool} {next : Nat}
    (hcontent : p.document.content = [t.mounted lit next]) :
    Enlisted p p.bind.2 ((labelHandles next t.count).flatMap bindings) := by
  -- without listeners there is nothing to unbind first
  have hunbind : p.unbind = p := by
    have hbound := hinert.bound h
    unfold Page.unbind
    rw [hbound]
    rcases p with ⟨d, b, bound, log⟩
    simp only at hbound
    rw [hbound]
    rfl
  have hbind : p.bind.2 = (p.document.withClass Vocabulary.label).foldl bindLabel p := by
    unfold Page.bind
    rw [hunbind]
  rw [hbind, foldl_bindLabel, withClass_label hcontent]
  exact h.foldl_enlist _

/-- Binding a page that holds a tree makes it show the tree. -/
theorem Enlisted.shows {q : Page} {t : Tree} {lit : Nat → Bool} {next : Nat}
    (h : Enlisted p q ((labelHandles next t.count).flatMap bindings)) (hinert : p.Inert)
    (hcontent : p.document.content = [t.mounted lit next])
    (hgiven : next + 2 * t.count ≤ p.document.nextHandle)
    (holder : ∀ x ∈ handlesIn p.document.detached, ∃ i < next, x = handleText i) :
    q.Shows t lit next := by
  have hlisteners := h.listeners
  -- there were none, so those that were added are all
  rw [hinert, List.map_nil, List.append_nil] at hlisteners
  refine ⟨?_, hlisteners, ?_, ?_⟩
  · rw [h.document]
    exact hcontent
  · rw [h.document]
    exact hgiven
  · rw [h.document]
    exact holder

/-! ## Switching the view -/

/-- The page with one more line in the log and another pane shown. -/
def present (p : Page) (n : Notice) (m : ViewMode) : Page :=
  { p.note n with document := (p.note n).document.setViewMode m }

theorem present_mode (p : Page) (n : Notice) (m : ViewMode) : (p.present n m).document.mode = m :=
  rfl

theorem present_result (p : Page) (n : Notice) (m : ViewMode) :
    (p.present n m).document.result = p.document.result :=
  rfl

theorem present_buffer (p : Page) (n : Notice) (m : ViewMode) : (p.present n m).buffer = p.buffer :=
  rfl

theorem Sound.present (h : p.Sound) (n : Notice) (m : ViewMode) : (p.present n m).Sound :=
  h.of_same_books rfl rfl

theorem Shows.present {t : Tree} {lit : Nat → Bool} {next : Nat} (h : p.Shows t lit next) (n : Notice)
    (m : ViewMode) : (p.present n m).Shows t lit next :=
  ⟨h.content, h.listeners, h.given, h.older⟩

end Page

end SyntaxPlayground
