import SyntaxPlayground.Page.Scene
import SyntaxPlayground.Proofs.Page.Interaction

/-!
# How documents change

`Document.Leads d d'` says that a page can turn the document `d` into `d'`: by mounting and clearing,
by changing views, results and classes, by registering and taking out listeners, and by sending events
whose handlers do any of this themselves. What holds between the two documents of every single change
holds along all of them as soon as it is reflexive and transitive; `dispatchWith_rel` is that argument
for the turns of an event. The reactions of the playground and the scripts of others are such handlers
(`Page.leads_react`, `Scene.leads_run`).
-/

namespace SyntaxPlayground

/-! ## Changes along the turns of an event -/

section Dispatch

variable {σ : Type} {registry : σ → Registry} {run : Handler → Event → σ → σ} {R : σ → σ → Prop}

theorem Registry.turn_rel (hrefl : ∀ s, R s s) (hrun : ∀ h ev s, R s (run h ev s)) (ev : Event)
    (ran : Nat × σ) (id : Nat) : R ran.2 (turn registry run ev ran id).2 := by
  unfold turn
  split
  · split
    · exact hrun _ ev ran.2
    · exact hrefl ran.2
  · exact hrefl ran.2

theorem Registry.foldl_turn_rel (hrefl : ∀ s, R s s) (htrans : ∀ {a b c}, R a b → R b c → R a c)
    (hrun : ∀ h ev s, R s (run h ev s)) (ev : Event) (ran : Nat × σ) (ids : List Nat) :
    R ran.2 (ids.foldl (turn registry run ev) ran).2 := by
  induction ids generalizing ran with
  | nil => exact hrefl ran.2
  | cons id ids ih =>
    rw [List.foldl_cons]
    exact htrans (turn_rel hrefl hrun ev ran id) (ih _)

/-- What every handler keeps, sending an event keeps. -/
theorem dispatchWith_rel (hrefl : ∀ s, R s s) (htrans : ∀ {a b c}, R a b → R b c → R a c)
    (hrun : ∀ h ev s, R s (run h ev s)) (ev : Event) (s : σ) :
    R s (dispatchWith registry run ev s).2 := by
  rw [Registry.dispatchWith_eq_foldl]
  exact Registry.foldl_turn_rel hrefl htrans hrun ev (0, s) _

end Dispatch

/-! ## Changes of a document -/

namespace Document

/-- The first document can become the second. The handlers of an event may keep a state of their own,
of which `document` is the document, and may send further events. -/
inductive Leads : Document → Document → Prop where
  | refl (d : Document) : Leads d d
  | trans {a b c : Document} : Leads a b → Leads b c → Leads a c
  | mount {d d' : Document} {markup : Text} : d.mount markup = .ok d' → Leads d d'
  | clear (d : Document) : Leads d d.clear
  | setViewMode (d : Document) (m : ViewMode) : Leads d (d.setViewMode m)
  | setResult (d : Document) (t : Text) : Leads d (d.setResult t)
  | addClass (d : Document) (t : Target) (c : Text) : Leads d (d.updateAttrs t (·.addClass c))
  | removeClass (d : Document) (t : Target) (c : Text) : Leads d (d.removeClass t c)
  | listen (d : Document) (l : Listener) : Leads d (d.listen l).2
  | unlisten (d : Document) (id : Nat) : Leads d (d.unlisten id)
  | dispatch {σ : Type} {document : σ → Document} {run : Handler → Event → σ → σ} :
    (∀ h ev s, Leads (document s) (document (run h ev s))) → ∀ ev s,
    Leads (document s) (document (dispatchWith (fun s => (document s).registry) run ev s).2)

/-- The document after new nodes were put into its tree pane. -/
def filled (d : Document) (nodes : List Markup) : Document :=
  { d.clear with
    content := (numberAll d.nextHandle nodes).1
    handles := d.clear.handles ++ handlesIn (numberAll d.nextHandle nodes).1
    nextHandle := (numberAll d.nextHandle nodes).2 }

theorem mount_of_read {markup : Text} {nodes : List Markup} (h : Markup.read markup = .ok nodes)
    (d : Document) : d.mount markup = .ok (d.filled nodes) := by
  unfold mount
  rw [h]
  rfl

theorem exists_filled_of_mount {d d' : Document} {markup : Text} (h : d.mount markup = .ok d') :
    ∃ nodes, d' = d.filled nodes := by
  cases hread : Markup.read markup with
  | error e =>
    unfold mount at h
    rw [hread] at h
    cases h
  | ok nodes =>
    rw [mount_of_read hread] at h
    cases h
    exact ⟨nodes, rfl⟩

/-- Taking out several listeners is a change. -/
theorem leads_foldl_remove (d : Document) (ids : List Nat) :
    Leads d { d with registry := ids.foldl Registry.remove d.registry } := by
  induction ids generalizing d with
  | nil => exact .refl d
  | cons id ids ih => exact (Leads.unlisten d id).trans (ih (d.unlisten id))

end Document

open Document

/-! ## The handlers of a page -/

namespace Page

theorem leads_unbind (p : Page) : Leads p.document p.unbind.document :=
  leads_foldl_remove p.document p.bound

theorem leads_react (r : Reaction) (ev : Event) (p : Page) :
    Leads p.document (p.react r ev).document := by
  unfold react
  split
  · exact .refl p.document
  · rename_i node _
    cases r with
    | hoverIn => exact .addClass p.document node Vocabulary.highlight
    | hoverOut => exact .removeClass p.document node Vocabulary.highlight
    | pick =>
      rcases pick_frame p node with ⟨selection, log, hpick⟩
      simp only
      rw [hpick]
      exact .refl p.document

end Page

/-! ## Scripts -/

namespace Scene

theorem leads_unlisten (s : Scene) (index : Int) :
    Leads s.page.document (s.unlisten index).page.document := by
  unfold unlisten
  split
  · exact .refl _
  · split
    · exact .unlisten _ _
    · exact .refl _

theorem leads_act {run : Handler → Event → Scene → Scene}
    (hrun : ∀ h ev s, Leads s.page.document (run h ev s).page.document) (ev : Event) (s : Scene)
    (a : Action) : Leads s.page.document (s.act run ev a).page.document := by
  cases a with
  | unlisten index => exact leads_unlisten s index
  | listen kind name actions => exact .listen s.page.document ⟨ev.target, kind, .script name actions⟩
  | dispatch kind => exact Leads.dispatch hrun ⟨kind, ev.target⟩ s
  | unbind => exact s.page.leads_unbind

/-- Whatever a handler does, however deep events are sent within events, it changes the document in
these ways only. -/
theorem leads_run (depth : Nat) (h : Handler) (ev : Event) (s : Scene) :
    Leads s.page.document (run depth h ev s).page.document := by
  induction depth generalizing h ev s with
  | zero => exact .refl s.page.document
  | succ depth ih =>
    cases h with
    | reaction r => exact s.page.leads_react r ev
    | script name actions =>
      have hactions (s : Scene) :
          Leads s.page.document (actions.foldl (act (run depth) ev) s).page.document := by
        induction actions generalizing s with
        | nil => exact .refl s.page.document
        | cons a actions ihActions =>
          rw [List.foldl_cons]
          exact (leads_act ih ev s a).trans (ihActions _)
      exact hactions { s with fired := s.fired ++ [(name, ev.kind)] }

end Scene

end SyntaxPlayground
