import SyntaxPlayground.Page.Listener

/-!
# The registry of listeners

The registry keeps its listeners twice, by number and by target. `Registry.Consistent` says that the
two agree; registering and taking out keep it so. In a consistent registry the listeners that wait
for an event are those of its target and kind, oldest first (`waiting_eq`), and as long as their
handlers leave the registry alone these are the ones that run (`dispatchWith_eq`).
-/

namespace SyntaxPlayground

namespace Registry

/-! ## Consistency -/

/-- The numbers of the listeners at a target, in the order of the list. -/
def numbersAt (ls : List (Nat × Listener)) (t : Target) : List Nat :=
  (ls.filter (·.2.target = t)).map Prod.fst

theorem numbersAt_append (ls ls' : List (Nat × Listener)) (t : Target) :
    numbersAt (ls ++ ls') t = numbersAt ls t ++ numbersAt ls' t := by
  unfold numbersAt
  rw [List.filter_append, List.map_append]

theorem numbersAt_cons_self (id : Nat) (l : Listener) (ls : List (Nat × Listener)) :
    numbersAt ((id, l) :: ls) l.target = id :: numbersAt ls l.target := by
  simp [numbersAt]

theorem numbersAt_cons_of_ne {l : Listener} {t : Target} (h : l.target ≠ t) (id : Nat)
    (ls : List (Nat × Listener)) : numbersAt ((id, l) :: ls) t = numbersAt ls t := by
  simp [numbersAt, h]

theorem mem_of_mem_numbersAt {ls : List (Nat × Listener)} {t : Target} {id : Nat}
    (h : id ∈ numbersAt ls t) : id ∈ ls.map Prod.fst := by
  rcases List.mem_map.mp h with ⟨p, hp, hid⟩
  exact List.mem_map.mpr ⟨p, (List.mem_filter.mp hp).1, hid⟩

/-- The listeners by number and by target agree, and numbers are given in increasing order. -/
structure Consistent (r : Registry) : Prop where
  decreasing : (r.listeners.map Prod.fst).Pairwise (· > ·)
  given : ∀ id ∈ r.listeners.map Prod.fst, id ≤ r.last
  indexed : ∀ t, r.idsAt t = (numbersAt r.listeners t).reverse

theorem consistent_empty : Consistent {} := by
  refine ⟨List.Pairwise.nil, ?_, ?_⟩
  · intro id hid
    exact absurd hid List.not_mem_nil
  · intro t
    simp [idsAt, numbersAt]

variable {r : Registry}

/-- No number is given twice. -/
theorem Consistent.nodup (h : r.Consistent) : (r.listeners.map Prod.fst).Nodup :=
  h.decreasing.imp fun hgt => Nat.ne_of_gt hgt

/-- Registering a listener keeps the registry consistent. -/
theorem Consistent.add (h : r.Consistent) (l : Listener) : (r.add l).2.Consistent := by
  refine ⟨?_, ?_, ?_⟩
  · refine List.Pairwise.cons ?_ h.decreasing
    intro id hid
    exact Nat.lt_succ_of_le (h.given id hid)
  · intro id hid
    rcases List.mem_cons.mp hid with heq | hid
    · exact Nat.le_of_eq heq
    · exact Nat.le_succ_of_le (h.given id hid)
  · intro t
    have hids : (r.add l).2.idsAt t =
        if l.target = t then r.idsAt l.target ++ [r.last + 1] else r.idsAt t := by
      simp [Registry.add, idsAt, Std.HashMap.getD_insert]
    have hlisteners : (r.add l).2.listeners = (r.last + 1, l) :: r.listeners := rfl
    rw [hids, hlisteners]
    by_cases ht : l.target = t
    · rw [if_pos ht, ← ht, numbersAt_cons_self, List.reverse_cons, h.indexed]
    · rw [if_neg ht, numbersAt_cons_of_ne ht, h.indexed]

theorem remove_of_find?_eq_none {id : Nat} (hfind : r.find? id = none) : r.remove id = r := by
  unfold remove
  rw [hfind]

/-- Taking out a listener leaves the others in their order. -/
theorem remove_listeners {id : Nat} {l : Listener} (hfind : r.find? id = some l) :
    ∃ newer older, r.listeners = newer ++ (id, l) :: older ∧
      (r.remove id).listeners = newer ++ older ∧ (r.remove id).last = r.last := by
  rcases List.lookup_eq_some_iff.mp hfind with ⟨newer, older, hsplit, hnewer⟩
  refine ⟨newer, older, hsplit, ?_, ?_⟩
  · unfold remove
    rw [hfind]
    simp only [hsplit]
    rw [List.eraseP_append_right, List.eraseP_cons_of_pos (by simp)]
    intro p hp
    have hne := hnewer p hp
    simp only [bne_iff_ne, ne_eq] at hne
    simpa using fun heq => hne heq.symm
  · unfold remove
    rw [hfind]

theorem remove_idsAt {id : Nat} {l : Listener} (hfind : r.find? id = some l) (t : Target) :
    (r.remove id).idsAt t = if l.target = t then (r.idsAt l.target).erase id else r.idsAt t := by
  have hids : (r.remove id).idsAt t = (r.remove id).byTarget.getD t [] := rfl
  have hbefore : r.idsAt t = r.byTarget.getD t [] := rfl
  rw [hids, hbefore]
  by_cases hrest : ((r.idsAt l.target).erase id).isEmpty = true
  · have hafter : (r.remove id).byTarget = r.byTarget.erase l.target := by
      simp only [remove, hfind, if_pos hrest]
    rw [hafter, Std.HashMap.getD_erase, List.isEmpty_iff.mp hrest]
    simp only [beq_iff_eq]
  · have hafter : (r.remove id).byTarget =
        r.byTarget.insert l.target ((r.idsAt l.target).erase id) := by
      simp only [remove, hfind, if_neg hrest]
    rw [hafter, Std.HashMap.getD_insert]
    simp only [beq_iff_eq]

/-- Taking out a listener keeps the registry consistent. -/
theorem Consistent.remove (h : r.Consistent) (id : Nat) : (r.remove id).Consistent := by
  cases hfind : r.find? id with
  | none =>
    rw [remove_of_find?_eq_none hfind]
    exact h
  | some l =>
    rcases remove_listeners hfind with ⟨newer, older, hsplit, hrest, hlast⟩
    have hsub : ((newer ++ older).map Prod.fst).Sublist (r.listeners.map Prod.fst) := by
      rw [hsplit]
      exact ((List.Sublist.refl newer).append (List.sublist_cons_self _ _)).map _
    refine ⟨?_, ?_, ?_⟩
    · rw [hrest]
      exact h.decreasing.sublist hsub
    · intro n hn
      rw [hrest] at hn
      rw [hlast]
      exact h.given n (hsub.subset hn)
    · intro t
      rw [remove_idsAt hfind, hrest]
      by_cases ht : l.target = t
      · -- the number stands once in the list, so it is not among the older ones
        have hnodup := h.nodup
        rw [hsplit, List.map_append, List.map_cons, List.nodup_append, List.nodup_cons] at hnodup
        have hid : id ∉ (numbersAt older l.target).reverse := by
          rw [List.mem_reverse]
          intro hid
          exact hnodup.2.1.1 (mem_of_mem_numbersAt hid)
        rw [if_pos ht, ← ht, h.indexed, hsplit, numbersAt_append, numbersAt_cons_self,
          numbersAt_append, List.reverse_append, List.reverse_cons, List.append_assoc,
          List.erase_append_right _ hid, List.singleton_append, List.erase_cons_head,
          List.reverse_append]
      · rw [if_neg ht, h.indexed, hsplit, numbersAt_append, numbersAt_cons_of_ne ht,
          numbersAt_append]

/-- Taking out every listener, newest first, empties the registry. -/
theorem foldl_remove {ls : List (Nat × Listener)} (h : r.Consistent) (hls : r.listeners = ls) :
    ((ls.map Prod.fst).foldl Registry.remove r).Consistent ∧
      ((ls.map Prod.fst).foldl Registry.remove r).listeners = [] := by
  induction ls generalizing r with
  | nil => exact ⟨h, hls⟩
  | cons p ls ih =>
    rcases p with ⟨id, l⟩
    have hfind : r.find? id = some l := by
      unfold find?
      rw [hls, List.lookup_cons_self]
    have hrest : (r.remove id).listeners = ls := by
      unfold Registry.remove
      rw [hfind]
      simp only [hls]
      rw [List.eraseP_cons_of_pos (by simp)]
    exact ih (h.remove id) hrest

/-! ## Sending events -/

/-- The handlers of the kind of the event among the listeners with the given numbers. -/
def handlersOf (r : Registry) (ev : Event) (ids : List Nat) : List Handler :=
  ((ids.filterMap r.find?).filter (·.kind = ev.kind)).map Listener.handler

/-- The handlers that wait for an event, oldest first. -/
def waiting (r : Registry) (ev : Event) : List Handler :=
  r.handlersOf ev (r.idsAt ev.target)

theorem Consistent.find?_eq_some (h : r.Consistent) {p : Nat × Listener} (hp : p ∈ r.listeners) :
    r.find? p.1 = some p.2 := by
  have hnodup := h.nodup
  unfold find?
  -- the induction is on the list alone, for its tail belongs to no registry
  generalize r.listeners = ls at hp hnodup
  induction ls with
  | nil => exact absurd hp List.not_mem_nil
  | cons q ls ih =>
    rw [List.map_cons, List.nodup_cons] at hnodup
    rcases List.mem_cons.mp hp with rfl | hp
    · exact List.lookup_cons_self
    · have hne : p.1 ≠ q.1 := by
        intro heq
        exact hnodup.1 (heq ▸ List.mem_map_of_mem hp)
      rw [List.lookup_cons, beq_eq_false_iff_ne.mpr hne]
      exact ih hp hnodup.2

/-- What is left when a listener is taken out. -/
theorem Consistent.listeners_remove (h : r.Consistent) (id : Nat) :
    (r.remove id).listeners = r.listeners.filter (·.1 ≠ id) := by
  cases hfind : r.find? id with
  | none =>
    rw [remove_of_find?_eq_none hfind, eq_comm, List.filter_eq_self]
    intro p hp
    rw [decide_eq_true_eq]
    rintro rfl
    rw [h.find?_eq_some hp] at hfind
    cases hfind
  | some l =>
    rcases remove_listeners hfind with ⟨newer, older, hsplit, hrest, _⟩
    have hnodup := h.nodup
    rw [hsplit, (List.perm_middle.map Prod.fst).nodup_iff, List.map_cons, List.nodup_cons] at hnodup
    -- no other listener has the number
    have hothers : (newer ++ older).filter (·.1 ≠ id) = newer ++ older := by
      rw [List.filter_eq_self]
      intro p hp
      rw [decide_eq_true_eq]
      intro heq
      exact hnodup.1 (List.mem_map.mpr ⟨p, hp, heq⟩)
    rw [hrest, hsplit, List.filter_append, List.filter_cons_of_neg (by simp), ← List.filter_append,
      hothers]

/-- What is left when some listeners are taken out. -/
theorem Consistent.foldl_remove_listeners (h : r.Consistent) (ids : List Nat) :
    (ids.foldl Registry.remove r).Consistent ∧
      (ids.foldl Registry.remove r).listeners = r.listeners.filter (·.1 ∉ ids) ∧
      (ids.foldl Registry.remove r).last = r.last := by
  induction ids generalizing r with
  | nil =>
    refine ⟨h, ?_, rfl⟩
    rw [List.foldl_nil, eq_comm, List.filter_eq_self]
    simp
  | cons id ids ih =>
    rcases ih (h.remove id) with ⟨hconsistent, hlisteners, hlast⟩
    rw [List.foldl_cons]
    refine ⟨hconsistent, ?_, ?_⟩
    · rw [hlisteners, h.listeners_remove, List.filter_filter]
      congr 1
      funext p
      simp [Bool.and_comm]
    · rw [hlast]
      cases hfind : r.find? id with
      | none => rw [remove_of_find?_eq_none hfind]
      | some l =>
        rcases remove_listeners hfind with ⟨_, _, _, _, hlast⟩
        exact hlast

/-- The numbers at a target lead to the listeners there. -/
theorem filterMap_find?_numbersAt {ls : List (Nat × Listener)}
    (h : ∀ p ∈ ls, r.find? p.1 = some p.2) (t : Target) :
    (numbersAt ls t).filterMap r.find? = (ls.map Prod.snd).filter (·.target = t) := by
  induction ls with
  | nil => rfl
  | cons p ls ih =>
    have hhead := h p List.mem_cons_self
    have htail := ih fun q hq => h q (List.mem_cons_of_mem p hq)
    rcases p with ⟨id, l⟩
    by_cases ht : l.target = t
    · rw [← ht, numbersAt_cons_self, List.filterMap_cons, hhead, ht, htail]
      simp [ht]
    · rw [numbersAt_cons_of_ne ht, htail]
      simp [ht]

/-- Who waits for an event: the listeners at its target for its kind. -/
theorem Consistent.waiting_eq (h : r.Consistent) (ev : Event) :
    r.waiting ev = (((r.listeners.map Prod.snd).filter
      fun l => l.target = ev.target ∧ l.kind = ev.kind).map Listener.handler).reverse := by
  have hfound := filterMap_find?_numbersAt (fun p hp => h.find?_eq_some hp) ev.target
  unfold waiting handlersOf
  rw [h.indexed, List.filterMap_reverse, hfound, List.filter_reverse, List.map_reverse,
    List.filter_filter]
  congr 3
  funext l
  rw [Bool.decide_and, Bool.and_comm]

section Dispatch

variable {σ : Type} {registry : σ → Registry} {run : Handler → Event → σ → σ}

/-- One turn of sending an event: the listener with the given number runs if it is still there and
waits for the kind of the event. -/
def turn (registry : σ → Registry) (run : Handler → Event → σ → σ) (ev : Event) (ran : Nat × σ)
    (id : Nat) : Nat × σ :=
  match (registry ran.2).find? id with
  | some l => if l.kind = ev.kind then (ran.1 + 1, run l.handler ev ran.2) else ran
  | none => ran

theorem dispatchWith_eq_foldl (ev : Event) (s : σ) :
    dispatchWith registry run ev s =
      ((registry s).idsAt ev.target).foldl (turn registry run ev) (0, s) :=
  rfl

theorem handlersOf_cons_none {id : Nat} (h : r.find? id = none) (ev : Event) (ids : List Nat) :
    handlersOf r ev (id :: ids) = handlersOf r ev ids := by
  simp [handlersOf, h]

theorem handlersOf_cons_some {id : Nat} {l : Listener} (h : r.find? id = some l) (ev : Event)
    (ids : List Nat) : handlersOf r ev (id :: ids) =
      if l.kind = ev.kind then l.handler :: handlersOf r ev ids else handlersOf r ev ids := by
  by_cases hkind : l.kind = ev.kind <;> simp [handlersOf, h, hkind]

/-- The turns of an event, as long as the registry stays that of the beginning. -/
theorem foldl_turn (hrun : ∀ h ev s, registry (run h ev s) = registry s) (ev : Event)
    {ids : List Nat} {ran : Nat × σ} (hran : registry ran.2 = r) :
    ids.foldl (turn registry run ev) ran =
      (ran.1 + (handlersOf r ev ids).length,
        (handlersOf r ev ids).foldl (fun s h => run h ev s) ran.2) := by
  induction ids generalizing ran with
  | nil => rfl
  | cons id ids ih =>
    rw [List.foldl_cons]
    cases hfind : r.find? id with
    | none =>
      have hturn : turn registry run ev ran id = ran := by simp only [turn, hran, hfind]
      rw [hturn, handlersOf_cons_none hfind, ih hran]
    | some l =>
      rw [handlersOf_cons_some hfind]
      by_cases hkind : l.kind = ev.kind
      · have hturn : turn registry run ev ran id = (ran.1 + 1, run l.handler ev ran.2) := by
          simp only [turn, hran, hfind, hkind, if_true]
        have hnext : registry (run l.handler ev ran.2) = r := by rw [hrun, hran]
        rw [hturn, ih hnext, if_pos hkind, List.length_cons, List.foldl_cons]
        simp only [Nat.add_assoc, Nat.add_comm 1]
      · have hturn : turn registry run ev ran id = ran := by
          simp only [turn, hran, hfind, hkind, if_false]
        rw [hturn, ih hran, if_neg hkind]

/-- Where handlers leave the registry alone, an event runs those that wait for it. -/
theorem dispatchWith_eq (hrun : ∀ h ev s, registry (run h ev s) = registry s) (ev : Event) (s : σ) :
    dispatchWith registry run ev s = (((registry s).waiting ev).length,
      ((registry s).waiting ev).foldl (fun s h => run h ev s) s) := by
  rw [dispatchWith_eq_foldl, foldl_turn hrun ev rfl, Nat.zero_add]
  rfl

end Dispatch

end Registry

end SyntaxPlayground
