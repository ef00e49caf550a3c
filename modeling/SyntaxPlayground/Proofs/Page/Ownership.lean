import Mathlib.Data.List.Basic
import Mathlib.Logic.Function.Iterate
import Mathlib.Logic.Relation
import SyntaxPlayground.Proofs.Page.Dispatch
import SyntaxPlayground.Proofs.Page.Handles

/-!
# Whose listeners are registered

The playground shares the registry of its page with others, who register listeners of their own and
take out again what they were given a number for. A `Ledger` is a scene together with the listeners that
others have added and not taken out; `Ledger.Change` is one thing that is done to it, by the playground
or by others. `Ledger.Settled` is what every change keeps: the registered listeners are those of the
others and the bound ones, and nothing else.

An event whose handlers make such changes makes a sequence of them, however far it has come
(`Scene.reaches_midway`), and the scripts of a scene are such handlers (`Scene.reaches_run`).
-/

namespace SyntaxPlayground

open Document Registry

/-! ## Ledgers -/

/-- A scene, with the listeners that others have added and not taken out again, newest first. -/
structure Ledger where
  scene : Scene
  others : List (Nat × Listener) := []

namespace Ledger

/-- The registered listeners, newest first. -/
def listeners (l : Ledger) : List (Nat × Listener) :=
  l.scene.page.document.registry.listeners

/-- The numbers of the playground's own listeners, newest first. -/
def bound (l : Ledger) : List Nat :=
  l.scene.page.bound

/-- The same scene with another page. -/
def withPage (l : Ledger) (p : Page) : Ledger :=
  { l with scene := { l.scene with page := p } }

@[simp] theorem withPage_page (l : Ledger) (p : Page) : (l.withPage p).scene.page = p :=
  rfl

@[simp] theorem withPage_others (l : Ledger) (p : Page) : (l.withPage p).others = l.others :=
  rfl

/-- The same scene with another document. -/
def withDocument (l : Ledger) (d : Document) : Ledger :=
  l.withPage { l.scene.page with document := d }

/-- Others add a listener. -/
def listen (l : Ledger) (t : Target) (kind name : Text) (actions : List Action) : Ledger :=
  { scene := (l.scene.listen t kind name actions).2
    others := ((l.scene.page.document.listen ⟨t, kind, .script name actions⟩).1,
      ⟨t, kind, .script name actions⟩) :: l.others }

/-- Others take a listener out. -/
def unlisten (l : Ledger) (id : Nat) : Ledger :=
  { l.withDocument (l.scene.page.document.unlisten id) with others := l.others.filter (·.1 ≠ id) }

/-- A new page that nobody uses yet. -/
def start (unit : OffsetUnit) : Ledger :=
  { scene := { page := { buffer := { unit } } } }

/-- One thing that is done to a page which the playground shares with others. These take out only what
they were given a number for. -/
inductive Change : Ledger → Ledger → Prop where
  | mount {l : Ledger} {markup : Text} {d : Document} :
    l.scene.page.document.mount markup = .ok d → Change l (l.withDocument d)
  | clear (l : Ledger) : Change l (l.withDocument l.scene.page.document.clear)
  | bind (l : Ledger) : Change l (l.withPage l.scene.page.bind.2)
  | unbind (l : Ledger) : Change l (l.withPage l.scene.page.unbind)
  | listen (l : Ledger) (t : Target) (kind name : Text) (actions : List Action) :
    Change l (l.listen t kind name actions)
  | unlisten {l : Ledger} {id : Nat} : id ∈ l.scene.issued → Change l (l.unlisten id)
  /-- The playground reacts to an event. -/
  | react (l : Ledger) (r : Reaction) (ev : Event) : Change l (l.withPage (l.scene.page.react r ev))
  /-- What a scene writes down about its scripts changes. -/
  | record (l : Ledger) (fired : List (Text × Text)) (kept : List (Text × Target)) (runaway : Bool) :
    Change l { l with scene := { l.scene with fired := fired, kept := kept, runaway := runaway } }

/-- Any number of changes, one after the other. -/
abbrev Changes : Ledger → Ledger → Prop :=
  Relation.ReflTransGen Change

/-! ## What every change keeps -/

/-- Every registered listener is accounted for: those with bound numbers are the playground's own, and the
rest is what others have added and not taken out. -/
structure Settled (l : Ledger) : Prop where
  registry : l.scene.page.document.registry.Consistent
  own : (l.listeners.filter (·.1 ∈ l.bound)).map Prod.fst = l.bound
  rest : l.listeners.filter (·.1 ∉ l.bound) = l.others
  /-- Others were never given the number of a bound listener. -/
  issued : ∀ id ∈ l.scene.issued, id ≤ l.scene.page.document.registry.last ∧ id ∉ l.bound

variable {l l' : Ledger}

theorem settled_start (unit : OffsetUnit) : (start unit).Settled := by
  refine ⟨consistent_empty, rfl, rfl, ?_⟩
  intro id hid
  exact absurd hid List.not_mem_nil

theorem Settled.of_same_registry (h : l.Settled)
    (hregistry : l'.scene.page.document.registry = l.scene.page.document.registry)
    (hbound : l'.bound = l.bound) (hissued : l'.scene.issued = l.scene.issued)
    (hothers : l'.others = l.others) : l'.Settled := by
  have hlisteners : l'.listeners = l.listeners := congrArg Registry.listeners hregistry
  refine ⟨?_, ?_, ?_, ?_⟩
  · rw [hregistry]
    exact h.registry
  · rw [hlisteners, hbound]
    exact h.own
  · rw [hlisteners, hbound, hothers]
    exact h.rest
  · rw [hregistry, hbound, hissued]
    exact h.issued

theorem Settled.registered_of_bound (h : l.Settled) {id : Nat} (hid : id ∈ l.bound) :
    id ∈ l.listeners.map Prod.fst := by
  rw [← h.own] at hid
  exact (List.filter_sublist.map _).subset hid

/-- A number that was not given yet is not bound. -/
theorem Settled.last_lt_of_bound (h : l.Settled) {id : Nat} (hid : id ∈ l.bound) :
    id < l.scene.page.document.registry.last + 1 :=
  Nat.lt_succ_of_le (h.registry.given id (h.registered_of_bound hid))

/-! ## Others -/

theorem Settled.listen (h : l.Settled) (t : Target) (kind name : Text) (actions : List Action) :
    (l.listen t kind name actions).Settled := by
  have hnew : l.scene.page.document.registry.last + 1 ∉ l.bound := by
    intro hbound
    exact Nat.lt_irrefl _ (h.last_lt_of_bound hbound)
  have hbound : (l.listen t kind name actions).bound = l.bound := rfl
  have hlisteners : (l.listen t kind name actions).listeners =
      (l.scene.page.document.registry.last + 1, ⟨t, kind, .script name actions⟩) :: l.listeners := rfl
  refine ⟨h.registry.add _, ?_, ?_, ?_⟩
  · -- the new number is not bound, so it is no own listener
    rw [hlisteners, hbound, List.filter_cons_of_neg (by simpa using hnew), h.own]
  · rw [hlisteners, hbound, List.filter_cons_of_pos (by simpa using hnew), h.rest]
    rfl
  · intro id hid
    rcases List.mem_append.mp hid with hold | hlast
    · exact ⟨Nat.le_succ_of_le (h.issued id hold).1, (h.issued id hold).2⟩
    · rw [List.mem_singleton.mp hlast]
      exact ⟨Nat.le_refl _, hnew⟩

theorem Settled.unlisten (h : l.Settled) {id : Nat} (hid : id ∈ l.scene.issued) :
    (l.unlisten id).Settled := by
  have hbound : (l.unlisten id).bound = l.bound := rfl
  have hlisteners : (l.unlisten id).listeners = l.listeners.filter (·.1 ≠ id) :=
    h.registry.listeners_remove id
  refine ⟨h.registry.remove id, ?_, ?_, ?_⟩
  · have hown : (l.listeners.filter (·.1 ≠ id)).filter (·.1 ∈ l.bound) =
        l.listeners.filter (·.1 ∈ l.bound) := by
      rw [List.filter_filter]
      apply List.filter_congr
      intro p _
      -- what others were given a number for is not bound
      by_cases hp : p.1 ∈ l.bound
      · have hne : p.1 ≠ id := fun heq => (h.issued id hid).2 (heq ▸ hp)
        simp [hp, hne]
      · simp [hp]
    rw [hlisteners, hbound, hown, h.own]
  · have hothers : (l.unlisten id).others = l.others.filter (·.1 ≠ id) := rfl
    rw [hlisteners, hbound, hothers, ← h.rest, List.filter_filter, List.filter_filter]
    congr 1
    funext p
    exact Bool.and_comm _ _
  · have hlast : (l.unlisten id).scene.page.document.registry.last =
        l.scene.page.document.registry.last := (h.registry.foldl_remove_listeners [id]).2.2
    rw [hlast]
    exact h.issued

/-! ## Unbinding and binding -/

/-- Unbinding leaves the listeners of others, in their order. -/
theorem Settled.unbind_listeners (h : l.Settled) :
    (l.withPage l.scene.page.unbind).listeners = l.others :=
  (h.registry.foldl_remove_listeners l.bound).2.1.trans h.rest

theorem Settled.unbind (h : l.Settled) : (l.withPage l.scene.page.unbind).Settled := by
  have hremoved := h.registry.foldl_remove_listeners l.bound
  have hbound : (l.withPage l.scene.page.unbind).bound = [] := rfl
  refine ⟨hremoved.1, ?_, ?_, ?_⟩
  · simp [hbound]
  · rw [h.unbind_listeners, hbound]
    simp [withPage]
  · intro id hid
    exact ⟨Nat.le_trans (h.issued id hid).1 (Nat.le_of_eq hremoved.2.2.symm), List.not_mem_nil⟩

/-- One more listener of the playground's own. -/
theorem Settled.enlist (h : l.Settled) (x : Listener) :
    (l.withPage (l.scene.page.enlist x)).Settled := by
  have hbound : (l.withPage (l.scene.page.enlist x)).bound =
      (l.scene.page.document.registry.last + 1) :: l.bound := rfl
  have hlisteners : (l.withPage (l.scene.page.enlist x)).listeners =
      (l.scene.page.document.registry.last + 1, x) :: l.listeners := rfl
  -- the listeners that were there keep their owners, since the new number is none of theirs
  have hsame : ∀ p ∈ l.listeners,
      (p.1 ∈ (l.withPage (l.scene.page.enlist x)).bound ↔ p.1 ∈ l.bound) := by
    intro p hp
    have hgiven := h.registry.given p.1 (List.mem_map_of_mem hp)
    have hne : p.1 ≠ l.scene.page.document.registry.last + 1 := by omega
    rw [hbound, List.mem_cons, or_iff_right hne]
  have hown : l.listeners.filter (·.1 ∈ (l.withPage (l.scene.page.enlist x)).bound) =
      l.listeners.filter (·.1 ∈ l.bound) := by
    apply List.filter_congr
    intro p hp
    exact decide_eq_decide.mpr (hsame p hp)
  have hrest : l.listeners.filter (·.1 ∉ (l.withPage (l.scene.page.enlist x)).bound) =
      l.listeners.filter (·.1 ∉ l.bound) := by
    apply List.filter_congr
    intro p hp
    exact decide_eq_decide.mpr (not_congr (hsame p hp))
  refine ⟨h.registry.add x, ?_, ?_, ?_⟩
  · rw [hlisteners, List.filter_cons_of_pos (by simp [hbound]), List.map_cons, hown, h.own]
    rfl
  · rw [hlisteners, List.filter_cons_of_neg (by simp [hbound]), hrest, h.rest]
    rfl
  · intro id hid
    have hold := h.issued id hid
    refine ⟨Nat.le_succ_of_le hold.1, ?_⟩
    rw [hbound, List.mem_cons, not_or]
    refine ⟨?_, hold.2⟩
    omega

theorem Settled.foldl_enlist (h : l.Settled) (xs : List Listener) :
    (l.withPage (xs.foldl Page.enlist l.scene.page)).Settled := by
  induction xs generalizing l with
  | nil => exact h
  | cons x xs ih => exact ih (h.enlist x)

end Ledger

namespace Page

/-- Binding takes off what was bound and then puts three listeners on every label. -/
theorem bind_eq (p : Page) : p.bind = ((p.document.withClass Vocabulary.label).length,
    ((p.document.withClass Vocabulary.label).flatMap bindings).foldl enlist p.unbind) := by
  unfold Page.bind
  rw [← foldl_bindLabel]
  rfl

/-- What adding own listeners does to a page, whoever else has listeners there. -/
theorem exists_foldl_enlist (p : Page) (xs : List Listener) : ∃ own,
    (xs.foldl enlist p).document.registry.listeners = own ++ p.document.registry.listeners ∧
      (xs.foldl enlist p).bound = own.map Prod.fst ++ p.bound ∧ own.map Prod.snd = xs.reverse ∧
      (xs.foldl enlist p).document.content = p.document.content := by
  induction xs generalizing p with
  | nil => exact ⟨[], rfl, rfl, rfl, rfl⟩
  | cons x xs ih =>
    rcases ih (p.enlist x) with ⟨own, hlisteners, hbound, hown, hcontent⟩
    refine ⟨own ++ [(p.document.registry.last + 1, x)], ?_, ?_, ?_, hcontent⟩
    · rw [List.foldl_cons, hlisteners, List.append_assoc]
      rfl
    · rw [List.foldl_cons, hbound, List.map_append, List.append_assoc]
      rfl
    · rw [List.map_append, hown, List.reverse_cons]
      rfl

theorem leads_foldl_enlist (p : Page) (xs : List Listener) :
    Leads p.document (xs.foldl enlist p).document := by
  induction xs generalizing p with
  | nil => exact .refl p.document
  | cons x xs ih => exact (Leads.listen p.document x).trans (ih (p.enlist x))

theorem leads_bind (p : Page) : Leads p.document p.bind.2.document := by
  rw [bind_eq]
  exact p.leads_unbind.trans (leads_foldl_enlist p.unbind _)

/-- Reactions leave it alone what is bound. -/
theorem react_bound (r : Reaction) (ev : Event) (p : Page) : (p.react r ev).bound = p.bound := by
  unfold react
  split
  · rfl
  · rename_i node _
    cases r with
    | hoverIn => rfl
    | hoverOut => rfl
    | pick =>
      rcases pick_frame p node with ⟨selection, log, hpick⟩
      simp only
      rw [hpick]

end Page

namespace Ledger

variable {l l' : Ledger}

theorem Settled.bind (h : l.Settled) : (l.withPage l.scene.page.bind.2).Settled := by
  rw [Page.bind_eq]
  exact h.unbind.foldl_enlist _

/-- A change keeps every listener accounted for. -/
theorem Settled.change (h : l.Settled) (hchange : Change l l') : l'.Settled := by
  cases hchange with
  | mount hmount =>
    rcases exists_filled_of_mount hmount with ⟨nodes, rfl⟩
    exact h.of_same_registry rfl rfl rfl rfl
  | clear => exact h.of_same_registry rfl rfl rfl rfl
  | bind => exact h.bind
  | unbind => exact h.unbind
  | listen t kind name actions => exact h.listen t kind name actions
  | unlisten hid => exact h.unlisten hid
  | react r ev =>
    have hframe := Page.handle_frame (.reaction r) ev l.scene.page
    exact h.of_same_registry hframe.1 (Page.react_bound r ev l.scene.page) rfl rfl
  | record fired kept runaway => exact h.of_same_registry rfl rfl rfl rfl

theorem Settled.changes (h : l.Settled) (hchanges : Changes l l') : l'.Settled := by
  induction hchanges with
  | refl => exact h
  | tail _ hchange ih => exact ih.change hchange

/-! ## Documents -/

theorem Change.leads (h : Change l l') : Leads l.scene.page.document l'.scene.page.document := by
  cases h with
  | mount hmount => exact .mount hmount
  | clear => exact .clear _
  | bind => exact l.scene.page.leads_bind
  | unbind => exact l.scene.page.leads_unbind
  | listen t kind name actions => exact .listen _ _
  | unlisten _ => exact .unlisten _ _
  | react r ev => exact l.scene.page.leads_react r ev
  | record fired kept runaway => exact .refl _

theorem leads_of_changes (h : Changes l l') :
    Leads l.scene.page.document l'.scene.page.document := by
  induction h with
  | refl => exact .refl _
  | tail _ hchange ih => exact ih.trans hchange.leads

end Ledger

/-! ## Events -/

namespace Scene

open Ledger

/-- Changes lead from one scene to another, whatever others have added before. -/
def Reaches (s s' : Scene) : Prop :=
  ∀ others, ∃ others', Changes ⟨s, others⟩ ⟨s', others'⟩

theorem Reaches.refl (s : Scene) : Reaches s s :=
  fun others => ⟨others, .refl⟩

theorem Reaches.trans {a b c : Scene} (hab : Reaches a b) (hbc : Reaches b c) : Reaches a c := by
  intro others
  rcases hab others with ⟨others', hab⟩
  rcases hbc others' with ⟨others'', hbc⟩
  exact ⟨others'', hab.trans hbc⟩

/-- The scene when the first `k` of those at the target of an event have had their turns. -/
def midway (run : Handler → Event → Scene → Scene) (ev : Event) (k : Nat) (s : Scene) : Scene :=
  (((s.page.document.registry.idsAt ev.target).take k).foldl
    (turn (·.page.document.registry) run ev) (0, s)).2

theorem midway_length (run : Handler → Event → Scene → Scene) (ev : Event) (s : Scene) :
    s.midway run ev (s.page.document.registry.idsAt ev.target).length = (s.dispatchBy run ev).2 := by
  unfold midway
  rw [List.take_length]
  rfl

variable {run : Handler → Event → Scene → Scene}

/-- An event whose handlers make changes makes changes, however far it has come. -/
theorem reaches_midway (hrun : ∀ h ev s, Reaches s (run h ev s)) (ev : Event) (k : Nat) (s : Scene) :
    Reaches s (s.midway run ev k) :=
  foldl_turn_rel (R := Reaches) Reaches.refl Reaches.trans hrun ev (0, s) _

theorem reaches_dispatchBy (hrun : ∀ h ev s, Reaches s (run h ev s)) (ev : Event) (s : Scene) :
    Reaches s (s.dispatchBy run ev).2 := by
  rw [← midway_length]
  exact reaches_midway hrun ev _ s

theorem reaches_unlisten (s : Scene) (index : Int) : Reaches s (s.unlisten index) := by
  intro others
  unfold unlisten
  split
  · exact ⟨others, .refl⟩
  · split
    · rename_i id hid
      have hissued : id ∈ s.issued := List.mem_of_getElem? hid
      exact ⟨_, .single (Change.unlisten (l := ⟨s, others⟩) hissued)⟩
    · exact ⟨others, .refl⟩

theorem reaches_act (hrun : ∀ h ev s, Reaches s (run h ev s)) (ev : Event) (s : Scene) (a : Action) :
    Reaches s (s.act run ev a) := by
  cases a with
  | unlisten index => exact reaches_unlisten s index
  | listen kind name actions =>
    intro others
    exact ⟨_, .single (Change.listen ⟨s, others⟩ ev.target kind name actions)⟩
  | dispatch kind => exact reaches_dispatchBy hrun ⟨kind, ev.target⟩ s
  | unbind =>
    intro others
    exact ⟨_, .single (Change.unbind ⟨s, others⟩)⟩

theorem reaches_foldl_act (hrun : ∀ h ev s, Reaches s (run h ev s)) (ev : Event) (s : Scene)
    (actions : List Action) : Reaches s (actions.foldl (act run ev) s) := by
  induction actions generalizing s with
  | nil => exact .refl s
  | cons a actions ih => exact (reaches_act hrun ev s a).trans (ih (s.act run ev a))

/-- Scripts do nothing but make changes, however deep events are sent within events. -/
theorem reaches_run (depth : Nat) (h : Handler) (ev : Event) (s : Scene) :
    Reaches s (Scene.run depth h ev s) := by
  induction depth generalizing h ev s with
  | zero =>
    intro others
    exact ⟨others, .single (Change.record ⟨s, others⟩ s.fired s.kept true)⟩
  | succ depth ih =>
    cases h with
    | reaction r =>
      intro others
      exact ⟨others, .single (Change.react ⟨s, others⟩ r ev)⟩
    | script name actions =>
      have hfired : Reaches s { s with fired := s.fired ++ [(name, ev.kind)] } := by
        intro others
        exact ⟨others, .single (Change.record ⟨s, others⟩ _ s.kept s.runaway)⟩
      exact hfired.trans (reaches_foldl_act ih ev _ actions)

end Scene

/-! ## The listeners of a shared page -/

namespace Document

open Markup

/-- The elements of a class have handles of their own. -/
theorem IsNumbered.map_handleOf?_withClass {d : Document} (h : d.IsNumbered) (c : Text) :
    ((elementsAll d.content).filter (·.attrs.hasClass c)).map handleOf? = (d.withClass c).map some ∧
      (d.withClass c).Nodup := by
  constructor
  · unfold withClass
    rw [List.map_filterMap, ← List.filterMap_eq_map]
    apply List.filterMap_congr
    intro m hm
    rcases h.leads_to (List.mem_filter.mp hm).1 with ⟨x, _, hx, _⟩
    rw [Function.comp_apply, hx]
    rfl
  · have hnodup := h.nodup_handles
    rw [h.handles_eq] at hnodup
    exact hnodup.sublist (List.filter_sublist.filterMap _)

end Document

namespace Ledger

open Markup

variable {l : Ledger}

/-- What binding a page does, where others have listeners too: of the playground's own there are then
three on every label in the tree pane, oldest first, and nothing else. -/
structure BindsLabels (p : Page) (others : List (Nat × Listener)) : Prop where
  content : p.bind.2.document.content = p.document.content
  answer : p.bind.1 =
    ((elementsAll p.document.content).filter (·.attrs.hasClass Vocabulary.label)).length
  labels : ((elementsAll p.document.content).filter (·.attrs.hasClass Vocabulary.label)).map handleOf? =
    (p.document.withClass Vocabulary.label).map some
  distinct : (p.document.withClass Vocabulary.label).Nodup
  listeners : ∃ own, p.bind.2.document.registry.listeners = own ++ others ∧
    own.map Prod.fst = p.bind.2.bound ∧
    (own.map Prod.snd).reverse = (p.document.withClass Vocabulary.label).flatMap fun h =>
      [⟨.element h, EventKind.mouseEnter, .reaction .hoverIn⟩,
        ⟨.element h, EventKind.mouseLeave, .reaction .hoverOut⟩,
        ⟨.element h, EventKind.click, .reaction .pick⟩]

theorem Settled.bindsLabels (h : l.Settled) (hnumbered : l.scene.page.document.IsNumbered) :
    BindsLabels l.scene.page l.others := by
  -- every element has a handle of its own, so counting handles is counting elements
  rcases hnumbered.map_handleOf?_withClass Vocabulary.label with ⟨hlabels, hdistinct⟩
  rcases Page.exists_foldl_enlist l.scene.page.unbind
    ((l.scene.page.document.withClass Vocabulary.label).flatMap Page.bindings) with
    ⟨own, hlisteners, hbound, hown, hcontent⟩
  have hunbind : l.scene.page.unbind.document.registry.listeners = l.others := h.unbind_listeners
  refine ⟨?_, ?_, hlabels, hdistinct, own, ?_, ?_, ?_⟩
  · rw [Page.bind_eq, hcontent]
    rfl
  · have hlength := congrArg List.length hlabels
    rw [List.length_map, List.length_map] at hlength
    rw [Page.bind_eq, hlength]
  · rw [Page.bind_eq, hlisteners, hunbind]
  · rw [Page.bind_eq, hbound]
    exact (List.append_nil _).symm
  · rw [hown, List.reverse_reverse]
    rfl

/-- How many listeners there are after binding depends on the others and the labels only. -/
theorem Settled.count_bind (h : l.Settled) : l.scene.page.bind.2.document.registry.count =
    ((l.scene.page.document.withClass Vocabulary.label).flatMap Page.bindings).length +
      l.others.length := by
  rcases Page.exists_foldl_enlist l.scene.page.unbind
    ((l.scene.page.document.withClass Vocabulary.label).flatMap Page.bindings) with
    ⟨own, hlisteners, _, hown, _⟩
  have hunbind : l.scene.page.unbind.document.registry.listeners = l.others := h.unbind_listeners
  have hlength : own.length =
      ((l.scene.page.document.withClass Vocabulary.label).flatMap Page.bindings).length := by
    have hlength := congrArg List.length hown
    rw [List.length_map, List.length_reverse] at hlength
    exact hlength
  unfold Registry.count
  rw [Page.bind_eq, hlisteners, hunbind, List.length_append, hlength]

/-- Binding again and again leaves as many listeners as binding once. -/
theorem Settled.count_iterate_bind (h : l.Settled) (n : Nat) :
    ((fun p : Page => p.bind.2)^[n + 1] l.scene.page).document.registry.count =
      l.scene.page.bind.2.document.registry.count := by
  induction n generalizing l with
  | zero => rfl
  | succ n ih =>
    -- binding leaves the content alone, so the next one finds the same labels
    have hcontent : l.scene.page.bind.2.document.withClass Vocabulary.label =
        l.scene.page.document.withClass Vocabulary.label := by
      rcases Page.exists_foldl_enlist l.scene.page.unbind
        ((l.scene.page.document.withClass Vocabulary.label).flatMap Page.bindings) with
        ⟨_, _, _, _, hcontent⟩
      unfold withClass
      rw [Page.bind_eq, hcontent]
      rfl
    have hagain := ih h.bind
    have hcount := h.bind.count_bind
    rw [withPage_page] at hagain hcount
    rw [Function.iterate_succ_apply, hagain, hcount, hcontent, h.count_bind, withPage_others]

/-- Whatever was done to a page by the playground and by others, the registered listeners are those that
others have added and not taken out, together with the bound ones. Binding leaves three bound listeners on
each label and unbinding none, and those of others stay as they were. This goes on while an event is under
way whose handlers do such things themselves. -/
theorem listeners_accounted {unit : OffsetUnit} (h : Changes (start unit) l) :
    (l.listeners.filter (·.1 ∈ l.bound)).map Prod.fst = l.bound ∧
    l.listeners.filter (·.1 ∉ l.bound) = l.others ∧
    BindsLabels l.scene.page l.others ∧
    (l.scene.page.unbind.bound = [] ∧
      l.scene.page.unbind.document.registry.listeners = l.others) ∧
    (∀ n, ((fun p : Page => p.bind.2)^[n + 1] l.scene.page).document.registry.count =
      l.scene.page.bind.2.document.registry.count) ∧
    ∀ run, (∀ h ev s, Scene.Reaches s (run h ev s)) → ∀ ev,
      (∀ k, ∃ others', Changes l ⟨l.scene.midway run ev k, others'⟩) ∧
      ∃ others', Changes l ⟨(l.scene.dispatchBy run ev).2, others'⟩ := by
  have hsettled := (settled_start unit).changes h
  have hnumbered := (leads_of_changes h).advances.numbered isNumbered_empty
  refine ⟨hsettled.own, hsettled.rest, hsettled.bindsLabels hnumbered, ⟨rfl, hsettled.unbind_listeners⟩,
    hsettled.count_iterate_bind, ?_⟩
  intro run hrun ev
  exact ⟨fun k => Scene.reaches_midway hrun ev k l.scene l.others,
    Scene.reaches_dispatchBy hrun ev l.scene l.others⟩

/-- A page with one bound label, on which somebody else waits for a click to unbind the page. -/
def crowded : Ledger :=
  let l := (start .byte).withDocument (empty.showing (.node (utf8 "Program") 0 none []))
  let l := l.listen (.element (handleText 1)) EventKind.click (utf8 "evict") [.unbind]
  l.withPage l.scene.page.bind.2

theorem changes_crowded : Changes (start .byte) crowded := by
  have hmount : (start .byte).scene.page.document.mount
      (Tree.node (utf8 "Program") 0 none []).render =
      .ok (empty.showing (.node (utf8 "Program") 0 none [])) :=
    mount_render_eq_ok.mpr ⟨by decide, rfl⟩
  exact ((Relation.ReflTransGen.single (.mount hmount)).tail (.listen _ _ _ _ _)).tail (.bind _)

/-- The three bound listeners come and go beside the one of the other, also through a click that makes it
unbind the page. -/
theorem listeners_accounted_crowded : crowded.bound = [4, 3, 2] ∧
    crowded.listeners.filter (·.1 ∉ crowded.bound) = crowded.others ∧
    crowded.others.map Prod.fst = [1] ∧
    crowded.scene.page.unbind.document.registry.listeners.map Prod.fst = [1] ∧
    ∃ others, Changes crowded
      ⟨(crowded.scene.dispatch ⟨EventKind.click, .element (handleText 1)⟩).2, others⟩ := by
  rcases listeners_accounted changes_crowded with ⟨_, hrest, _, hunbind, _, hevents⟩
  refine ⟨rfl, hrest, rfl, ?_, ?_⟩
  · rw [hunbind.2]
    rfl
  · exact (hevents _ (Scene.reaches_run Scene.depthLimit) _).2

end Ledger

end SyntaxPlayground
