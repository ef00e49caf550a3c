import SyntaxPlayground.Proofs.Page.Change

/-!
# Sending events while the listeners change

The handlers of an event may register and take out listeners and send events of their own, at the very
target whose listeners are having their turns. `Registry.Turns` says what an event does all the same:
those who waited for it when it was sent get a turn each, oldest first, and run if they are still
registered then. The proof needs of the handlers only that the registry evolves (`Registry.Evolves`):
numbers grow, so a listener with an old number was there before.
-/

namespace SyntaxPlayground

namespace Registry

/-! ## How a registry evolves -/

/-- The second registry comes later: it is consistent if the first was, its numbers are no lower, and
of the numbers given before it has only listeners that were there. -/
structure Evolves (r r' : Registry) : Prop where
  consistent : r.Consistent → r'.Consistent
  last_le : r.last ≤ r'.last
  older : ∀ p ∈ r'.listeners, p.1 ≤ r.last → p ∈ r.listeners

theorem Evolves.refl (r : Registry) : Evolves r r :=
  ⟨id, Nat.le_refl _, fun _ hp _ => hp⟩

theorem Evolves.of_eq {r r' : Registry} (h : r' = r) : Evolves r r' :=
  h ▸ .refl r

theorem Evolves.trans {a b c : Registry} (hab : Evolves a b) (hbc : Evolves b c) : Evolves a c := by
  refine ⟨fun h => hbc.consistent (hab.consistent h), Nat.le_trans hab.last_le hbc.last_le, ?_⟩
  intro p hp hold
  exact hab.older p (hbc.older p hp (Nat.le_trans hold hab.last_le)) hold

theorem evolves_add (r : Registry) (l : Listener) : Evolves r (r.add l).2 := by
  refine ⟨fun h => h.add l, Nat.le_succ _, ?_⟩
  intro p hp hold
  rcases List.mem_cons.mp hp with rfl | hp
  · exact absurd hold (Nat.not_succ_le_self r.last)
  · exact hp

theorem evolves_remove (r : Registry) (id : Nat) : Evolves r (r.remove id) := by
  cases hfind : r.find? id with
  | none => exact .of_eq (remove_of_find?_eq_none hfind)
  | some l =>
    rcases remove_listeners hfind with ⟨newer, older, hsplit, hrest, hlast⟩
    refine ⟨fun h => h.remove id, Nat.le_of_eq hlast.symm, ?_⟩
    intro p hp _
    rw [hrest] at hp
    rw [hsplit]
    exact ((List.Sublist.refl newer).append (List.sublist_cons_self _ _)).subset hp

end Registry

open Registry

/-- Whatever is done to a document, its registry evolves. -/
theorem Document.Leads.evolves {d d' : Document} (h : Leads d d') :
    Evolves d.registry d'.registry := by
  induction h with
  | trans _ _ hab hbc => exact hab.trans hbc
  | mount hmount =>
    rcases exists_filled_of_mount hmount with ⟨nodes, rfl⟩
    exact .refl _
  | addClass d t c => exact .of_eq (Page.updateAttrs_registry d t _)
  | removeClass d t c => exact .of_eq (Page.updateAttrs_registry d t _)
  | listen d l => exact evolves_add d.registry l
  | unlisten d id => exact evolves_remove d.registry id
  | @dispatch _ document run _ ev s hrun =>
    exact dispatchWith_rel (R := fun s s' => Evolves (document s).registry (document s').registry)
      (fun s => .refl (document s).registry) Evolves.trans hrun ev s
  | refl | clear | setViewMode | setResult => exact .refl _

namespace Registry

/-! ## Turns -/

/-- The listeners that wait for an event, with their numbers, oldest first. -/
def awaiting (r : Registry) (ev : Event) : List (Nat × Listener) :=
  (r.listeners.filter fun p => p.2.target = ev.target ∧ p.2.kind = ev.kind).reverse

variable {σ : Type} {registry : σ → Registry} {run : Handler → Event → σ → σ} {ev : Event}

/-- `Turns registry run ev ps s ran s'`: the listeners `ps` have their turns, one after the other, from
the state `s` on; those in `ran` are registered when their turn comes, and run, which leads to `s'`. -/
inductive Turns (registry : σ → Registry) (run : Handler → Event → σ → σ) (ev : Event) :
    List (Nat × Listener) → σ → List (Nat × Listener) → σ → Prop where
  | done (s : σ) : Turns registry run ev [] s [] s
  | runs {p : Nat × Listener} {ps ran : List (Nat × Listener)} {s s' : σ} :
    p ∈ (registry s).listeners → Turns registry run ev ps (run p.2.handler ev s) ran s' →
    Turns registry run ev (p :: ps) s (p :: ran) s'
  | passes {p : Nat × Listener} {ps ran : List (Nat × Listener)} {s s' : σ} :
    p ∉ (registry s).listeners → Turns registry run ev ps s ran s' →
    Turns registry run ev (p :: ps) s ran s'

variable {ps ran : List (Nat × Listener)} {s s' : σ}

theorem Turns.sublist (h : Turns registry run ev ps s ran s') : ran.Sublist ps := by
  induction h with
  | done => exact List.Sublist.slnil
  | runs _ _ ih => exact ih.cons_cons _
  | passes _ _ ih => exact ih.cons _

/-- A listener runs if and only if it is registered in the state that its turn finds. -/
theorem Turns.mem_iff {qs : List (Nat × Listener)} {p : Nat × Listener}
    (h : Turns registry run ev (ps ++ p :: qs) s ran s') (hnodup : (ps ++ p :: qs).Nodup) :
    ∃ before t, Turns registry run ev ps s before t ∧ (p ∈ ran ↔ p ∈ (registry t).listeners) := by
  induction ps generalizing s ran with
  | nil =>
    refine ⟨[], s, .done s, ?_⟩
    rcases h with _ | ⟨hmem, _⟩ | ⟨hmem, hrest⟩
    · exact iff_of_true List.mem_cons_self hmem
    · have hout : p ∉ qs := (List.nodup_cons.mp hnodup).1
      exact iff_of_false (fun hran => hout (hrest.sublist.subset hran)) hmem
  | cons a ps ih =>
    rw [List.cons_append, List.nodup_cons] at hnodup
    have hne : p ≠ a := by
      rintro rfl
      exact hnodup.1 (List.mem_append_right ps List.mem_cons_self)
    rcases h with _ | ⟨hmem, hrest⟩ | ⟨hmem, hrest⟩
    · rcases ih hrest hnodup.2 with ⟨before, t, hturns, hiff⟩
      refine ⟨a :: before, t, .runs hmem hturns, ?_⟩
      rw [List.mem_cons, or_iff_right hne, hiff]
    · rcases ih hrest hnodup.2 with ⟨before, t, hturns, hiff⟩
      exact ⟨before, t, .passes hmem hturns, hiff⟩

variable {r : Registry}

/-- In a later registry the number of a listener leads to that listener or nowhere. -/
theorem Consistent.find?_later {r' : Registry} (h : r.Consistent) (hlater : Evolves r r')
    {p : Nat × Listener} (hp : p ∈ r.listeners) :
    (r'.find? p.1 = some p.2 ∧ p ∈ r'.listeners) ∨ (r'.find? p.1 = none ∧ p ∉ r'.listeners) := by
  cases hfind : r'.find? p.1 with
  | none =>
    refine Or.inr ⟨rfl, ?_⟩
    intro hmem
    rw [(hlater.consistent h).find?_eq_some hmem] at hfind
    cases hfind
  | some l =>
    rcases remove_listeners hfind with ⟨newer, older, hsplit, _, _⟩
    have hmem : (p.1, l) ∈ r'.listeners := by
      rw [hsplit]
      exact List.mem_append_right newer List.mem_cons_self
    -- the number is old, so this listener was there before, and it was `p` that had the number
    have hgiven : p.1 ≤ r.last := h.given p.1 (List.mem_map_of_mem hp)
    have hbefore := h.find?_eq_some (hlater.older (p.1, l) hmem hgiven)
    rw [h.find?_eq_some hp, Option.some_inj] at hbefore
    subst hbefore
    exact Or.inl ⟨rfl, hmem⟩

/-- Going through the numbers of some listeners, those for the kind of the event have their turns. -/
theorem exists_turns (hrun : ∀ h ev s, Evolves (registry s) (registry (run h ev s))) (ev : Event)
    (h : r.Consistent) {qs : List (Nat × Listener)} (hqs : ∀ p ∈ qs, p ∈ r.listeners) (count : Nat)
    (hs : Evolves r (registry s)) :
    ∃ ran s', (qs.map Prod.fst).foldl (turn registry run ev) (count, s) = (count + ran.length, s') ∧
      Turns registry run ev (qs.filter (·.2.kind = ev.kind)) s ran s' := by
  induction qs generalizing count s with
  | nil => exact ⟨[], s, rfl, .done s⟩
  | cons p qs ih =>
    have htail : ∀ q ∈ qs, q ∈ r.listeners := fun q hq => hqs q (List.mem_cons_of_mem p hq)
    rw [List.map_cons, List.foldl_cons]
    rcases h.find?_later hs (hqs p List.mem_cons_self) with ⟨hfind, hmem⟩ | ⟨hfind, hmem⟩
    · by_cases hkind : p.2.kind = ev.kind
      · have hturn : turn registry run ev (count, s) p.1 = (count + 1, run p.2.handler ev s) := by
          simp only [turn, hfind, hkind, if_true]
        rcases ih htail (count + 1) (hs.trans (hrun p.2.handler ev s)) with ⟨ran, s', heq, hturns⟩
        refine ⟨p :: ran, s', ?_, ?_⟩
        · rw [hturn, heq, List.length_cons, Nat.add_assoc, Nat.add_comm 1]
        · rw [List.filter_cons_of_pos (by simpa using hkind)]
          exact .runs hmem hturns
      · have hturn : turn registry run ev (count, s) p.1 = (count, s) := by
          simp only [turn, hfind, hkind, if_false]
        rw [hturn, List.filter_cons_of_neg (by simpa using hkind)]
        exact ih htail count hs
    · have hturn : turn registry run ev (count, s) p.1 = (count, s) := by
        simp only [turn, hfind]
      rcases ih htail count hs with ⟨ran, s', heq, hturns⟩
      refine ⟨ran, s', by rw [hturn, heq], ?_⟩
      by_cases hkind : p.2.kind = ev.kind
      · rw [List.filter_cons_of_pos (by simpa using hkind)]
        exact .passes hmem hturns
      · rw [List.filter_cons_of_neg (by simpa using hkind)]
        exact hturns

/-- An event gives a turn to those who wait for it when it is sent. -/
theorem dispatchWith_turns (hrun : ∀ h ev s, Evolves (registry s) (registry (run h ev s)))
    (ev : Event) (h : (registry s).Consistent) : ∃ ran s',
    dispatchWith registry run ev s = (ran.length, s') ∧
      Turns registry run ev ((registry s).awaiting ev) s ran s' := by
  have hids : (registry s).idsAt ev.target =
      (((registry s).listeners.filter (·.2.target = ev.target)).reverse).map Prod.fst := by
    rw [h.indexed, List.map_reverse]
    rfl
  have hawaiting : (((registry s).listeners.filter (·.2.target = ev.target)).reverse).filter
      (·.2.kind = ev.kind) = (registry s).awaiting ev := by
    unfold awaiting
    rw [List.filter_reverse, List.filter_filter]
    congr 2
    funext p
    rw [Bool.decide_and, Bool.and_comm]
  have hmem : ∀ p ∈ ((registry s).listeners.filter (·.2.target = ev.target)).reverse,
      p ∈ (registry s).listeners := by
    intro p hp
    exact (List.mem_filter.mp (List.mem_reverse.mp hp)).1
  have hturns := exists_turns hrun ev h hmem 0 (.refl (registry s))
  rw [hawaiting, ← hids, ← dispatchWith_eq_foldl] at hturns
  simpa only [Nat.zero_add] using hturns

theorem Consistent.increasing_awaiting (h : r.Consistent) (ev : Event) :
    ((r.awaiting ev).map Prod.fst).Pairwise (· < ·) := by
  unfold awaiting
  rw [List.map_reverse, List.pairwise_reverse]
  exact h.decreasing.sublist (List.filter_sublist.map _)

theorem Consistent.nodup_awaiting (h : r.Consistent) (ev : Event) : (r.awaiting ev).Nodup := by
  apply (List.pairwise_map.mp (h.increasing_awaiting ev)).imp
  intro p q hlt heq
  exact Nat.ne_of_lt hlt (congrArg Prod.fst heq)

theorem mem_awaiting {p : Nat × Listener} :
    p ∈ r.awaiting ev ↔ p ∈ r.listeners ∧ p.2.target = ev.target ∧ p.2.kind = ev.kind := by
  unfold awaiting
  rw [List.mem_reverse, List.mem_filter, decide_eq_true_iff]

end Registry

namespace Document

/-- Whatever the handlers of an event do to the document, the event runs those who waited for it when it
was sent and are registered when their turn comes: in the order of their numbers, each once, and none
whose number was given later. It answers how many ran. -/
theorem dispatchWith_runs_awaiting {σ : Type} {document : σ → Document}
    {run : Handler → Event → σ → σ} (hrun : ∀ h ev s, Leads (document s) (document (run h ev s)))
    (ev : Event) {s : σ} (hs : Leads empty (document s)) :
    ∃ ran s', dispatchWith (fun s => (document s).registry) run ev s = (ran.length, s') ∧
      Turns (fun s => (document s).registry) run ev ((document s).registry.awaiting ev) s ran s' ∧
      ran.Sublist ((document s).registry.awaiting ev) ∧ (ran.map Prod.fst).Pairwise (· < ·) ∧
      (∀ p ∈ ran, p ∈ (document s).registry.listeners ∧ p.1 ≤ (document s).registry.last ∧
        p.2.target = ev.target ∧ p.2.kind = ev.kind) ∧
      ∀ ps p qs, (document s).registry.awaiting ev = ps ++ p :: qs →
        ∃ before t, Turns (fun s => (document s).registry) run ev ps s before t ∧
          (p ∈ ran ↔ p ∈ (document t).registry.listeners) := by
  have hregistry : (document s).registry.Consistent := hs.evolves.consistent consistent_empty
  have hincreasing := hregistry.increasing_awaiting ev
  rcases dispatchWith_turns (fun h ev s => (hrun h ev s).evolves) ev hregistry with
    ⟨ran, s', heq, hturns⟩
  refine ⟨ran, s', heq, hturns, hturns.sublist, hincreasing.sublist (hturns.sublist.map _), ?_, ?_⟩
  · intro p hp
    have hwaits := mem_awaiting.mp (hturns.sublist.subset hp)
    exact ⟨hwaits.1, hregistry.given p.1 (List.mem_map_of_mem hwaits.1), hwaits.2⟩
  · intro ps p qs hsplit
    have hnodup := hregistry.nodup_awaiting ev
    rw [hsplit] at hturns hnodup
    exact hturns.mem_iff hnodup

end Document

namespace Scene

open Document

/-- The first of two scripts takes the second out and adds a third. -/
def meddling : Scene :=
  let s : Scene := { page := { buffer := { unit := .byte } } }
  let s := (s.listen .treePane EventKind.click (utf8 "first")
    [.unlisten 1, .listen EventKind.click (utf8 "third") []]).2
  (s.listen .treePane EventKind.click (utf8 "second") []).2

/-- Neither the script taken out nor the one added runs. -/
theorem dispatchWith_runs_awaiting_meddling : ∃ s',
    meddling.dispatch ⟨EventKind.click, .treePane⟩ = (1, s') ∧
      s'.fired = [(utf8 "first", EventKind.click)] ∧
      s'.page.document.registry.listeners.map Prod.fst = [3, 1] := by
  have hstart : Leads empty meddling.page.document := (Leads.listen empty _).trans (.listen _ _)
  rcases dispatchWith_runs_awaiting (leads_run depthLimit) ⟨EventKind.click, .treePane⟩ hstart with
    ⟨ran, s', heq, hturns, -⟩
  have hawaiting : meddling.page.document.registry.awaiting ⟨EventKind.click, .treePane⟩ =
      meddling.page.document.registry.listeners.reverse := rfl
  rw [hawaiting] at hturns
  rcases hturns with _ | ⟨_, hrest⟩ | ⟨hout, _⟩
  · rcases hrest with _ | ⟨hmem, _⟩ | ⟨_, hrest⟩
    · -- the second script is no longer registered
      exact absurd (List.mem_map_of_mem (f := Prod.fst) hmem) (by decide)
    · cases hrest
      exact ⟨_, heq, rfl, rfl⟩
  · exact absurd (List.mem_cons_of_mem _ List.mem_cons_self) hout

end Scene

end SyntaxPlayground
