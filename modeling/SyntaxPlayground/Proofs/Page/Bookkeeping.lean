import Mathlib.Algebra.BigOperators.Group.List.Lemmas
import Mathlib.Algebra.Ring.Nat
import SyntaxPlayground.Proofs.Page.Dispatch

/-!
# The two books of the registry

The registry finds a listener by its number in one book and the numbers at a target in another. The two
agree in every state that a page can bring a registry into (`Document.Leads.books_agree`): a number is
listed at a target if and only if a listener with this number waits there. `Registry.Tidy` is the part of it
that lists do not show: a target without listeners is not in the second book at all. What taking out a
listener does to both books is said by `Consistent.find?_remove_of_ne` and `Consistent.idsAt_remove`.
-/

namespace SyntaxPlayground

open Registry

/-- What adding and taking out listeners keeps, is kept whatever is done to a document. -/
theorem Document.Leads.registry_induct {P : Registry → Prop} (hadd : ∀ r l, P r → P (r.add l).2)
    (hremove : ∀ r id, P r → P (r.remove id)) {d d' : Document} (h : Leads d d') :
    P d.registry → P d'.registry := by
  induction h with
  | trans _ _ hab hbc => exact fun hp => hbc (hab hp)
  | mount hmount =>
    rcases exists_filled_of_mount hmount with ⟨nodes, rfl⟩
    exact id
  | addClass d t c =>
    intro hp
    exact (Page.updateAttrs_registry d t _).symm ▸ hp
  | removeClass d t c =>
    intro hp
    exact (Page.updateAttrs_registry d t _).symm ▸ hp
  | listen d l => exact hadd d.registry l
  | unlisten d id => exact hremove d.registry id
  | @dispatch _ document run _ ev s hrun =>
    exact dispatchWith_rel (R := fun s s' => P (document s).registry → P (document s').registry)
      (fun _ => id) (fun hab hbc hp => hbc (hab hp)) hrun ev s
  | refl | clear | setViewMode | setResult => exact id

namespace Registry

/-! ## The second book -/

/-- Only targets with listeners are in the second book. -/
def Tidy (r : Registry) : Prop :=
  ∀ t : Target, r.byTarget[t]? ≠ some []

variable {r : Registry} {t : Target} {id : Nat}

theorem idsAt_eq (r : Registry) (t : Target) : r.idsAt t = (r.byTarget[t]?).getD [] :=
  Std.HashMap.getD_eq_getD_getElem?

theorem tidy_empty : Tidy {} := by
  intro t
  simp

theorem Tidy.add (h : r.Tidy) (l : Listener) : (r.add l).2.Tidy := by
  intro t
  have hafter : (r.add l).2.byTarget[t]? =
      if l.target = t then some (r.idsAt l.target ++ [r.last + 1]) else r.byTarget[t]? := by
    simp [Registry.add, Std.HashMap.getElem?_insert]
  rw [hafter]
  by_cases ht : l.target = t
  · rw [if_pos ht]
    simp
  · rw [if_neg ht]
    exact h t

theorem Tidy.remove (h : r.Tidy) (id : Nat) : (r.remove id).Tidy := by
  intro t
  cases hfind : r.find? id with
  | none =>
    rw [remove_of_find?_eq_none hfind]
    exact h t
  | some l =>
    -- the last number at a target takes the target out with it
    by_cases hrest : ((r.idsAt l.target).erase id).isEmpty = true
    · have hafter : (r.remove id).byTarget = r.byTarget.erase l.target := by
        simp only [Registry.remove, hfind, if_pos hrest]
      rw [hafter, Std.HashMap.getElem?_erase]
      split
      · simp
      · exact h t
    · have hafter : (r.remove id).byTarget =
          r.byTarget.insert l.target ((r.idsAt l.target).erase id) := by
        simp only [Registry.remove, hfind, if_neg hrest]
      rw [hafter, Std.HashMap.getElem?_insert]
      split
      · intro hnil
        exact hrest (List.isEmpty_iff.mpr (Option.some.inj hnil))
      · exact h t

theorem Tidy.getElem?_eq_some_iff (h : r.Tidy) {ids : List Nat} :
    r.byTarget[t]? = some ids ↔ ids ≠ [] ∧ r.idsAt t = ids := by
  rw [idsAt_eq]
  cases hids : r.byTarget[t]? with
  | none =>
    constructor
    · intro hnone
      cases hnone
    · rintro ⟨hne, rfl⟩
      exact absurd rfl hne
  | some ids' =>
    constructor
    · intro heq
      cases heq
      refine ⟨?_, rfl⟩
      rintro rfl
      exact h t hids
    · rintro ⟨-, rfl⟩
      rfl

theorem Tidy.mem_keys_iff (h : r.Tidy) : t ∈ r.byTarget.keys ↔ r.idsAt t ≠ [] := by
  rw [Std.HashMap.mem_keys, Std.HashMap.mem_iff_isSome_getElem?, Option.isSome_iff_exists]
  constructor
  · rintro ⟨ids, hids⟩
    rcases h.getElem?_eq_some_iff.mp hids with ⟨hne, rfl⟩
    exact hne
  · intro hne
    exact ⟨r.idsAt t, h.getElem?_eq_some_iff.mpr ⟨hne, rfl⟩⟩

/-! ## The two books together -/

/-- The books of the registry are kept: they agree, and the second has no empty entries. -/
structure Kept (r : Registry) : Prop where
  consistent : r.Consistent
  tidy : r.Tidy

theorem kept_empty : Kept {} :=
  ⟨consistent_empty, tidy_empty⟩

theorem Kept.add (h : r.Kept) (l : Listener) : (r.add l).2.Kept :=
  ⟨h.consistent.add l, h.tidy.add l⟩

theorem Kept.remove (h : r.Kept) (id : Nat) : (r.remove id).Kept :=
  ⟨h.consistent.remove id, h.tidy.remove id⟩

theorem Consistent.find?_eq_some_iff (h : r.Consistent) {l : Listener} :
    r.find? id = some l ↔ (id, l) ∈ r.listeners := by
  constructor
  · intro hfind
    rcases remove_listeners hfind with ⟨newer, older, hsplit, -⟩
    rw [hsplit]
    exact List.mem_append_right newer List.mem_cons_self
  · exact h.find?_eq_some

/-- A number stands at a target if and only if the listener with this number waits there. -/
theorem Consistent.mem_idsAt_iff (h : r.Consistent) :
    id ∈ r.idsAt t ↔ ∃ l, r.find? id = some l ∧ l.target = t := by
  rw [h.indexed, List.mem_reverse]
  unfold numbersAt
  constructor
  · intro hid
    rcases List.mem_map.mp hid with ⟨p, hp, rfl⟩
    rcases List.mem_filter.mp hp with ⟨hmem, ht⟩
    exact ⟨p.2, h.find?_eq_some hmem, by simpa using ht⟩
  · rintro ⟨l, hfind, ht⟩
    have hmem := h.find?_eq_some_iff.mp hfind
    exact List.mem_map.mpr ⟨(id, l), List.mem_filter.mpr ⟨hmem, by simpa using ht⟩, rfl⟩

theorem Consistent.increasing_idsAt (h : r.Consistent) (t : Target) :
    (r.idsAt t).Pairwise (· < ·) := by
  rw [h.indexed, List.pairwise_reverse]
  exact h.decreasing.sublist (List.filter_sublist.map _)

theorem Consistent.length_idsAt (h : r.Consistent) (t : Target) :
    (r.idsAt t).length = (r.listeners.map (·.2.target)).count t := by
  rw [h.indexed, List.length_reverse, numbersAt, List.length_map, List.count_eq_countP,
    List.countP_map, List.countP_eq_length_filter]
  congr 2

/-- The targets in the second book are those of the listeners in the first. -/
theorem Kept.keys_perm (h : r.Kept) :
    r.byTarget.keys.Perm (r.listeners.map (·.2.target)).dedup := by
  rw [List.perm_ext_iff_of_nodup Std.HashMap.nodup_keys (List.nodup_dedup _)]
  intro t
  calc t ∈ r.byTarget.keys
      ↔ r.idsAt t ≠ [] := h.tidy.mem_keys_iff
    _ ↔ 0 < (r.listeners.map (·.2.target)).count t := by
      rw [← h.consistent.length_idsAt, List.length_pos_iff]
    _ ↔ t ∈ (r.listeners.map (·.2.target)).dedup := by rw [List.count_pos_iff, List.mem_dedup]

/-- Every listener is listed at one target, so the lists have as many numbers as there are listeners. -/
theorem Kept.count_eq (h : r.Kept) : r.count = (r.byTarget.toList.map fun p => p.2.length).sum := by
  have hlists : r.byTarget.keys.map (fun t => (r.listeners.map (·.2.target)).count t) =
      r.byTarget.toList.map fun p => p.2.length := by
    rw [← Std.HashMap.map_fst_toList_eq_keys, List.map_map]
    apply List.map_congr_left
    intro p hp
    have hids := Std.HashMap.mem_toList_iff_getElem?_eq_some.mp hp
    rw [← (h.tidy.getElem?_eq_some_iff.mp hids).2, h.consistent.length_idsAt]
    rfl
  calc r.count
      = (r.listeners.map (·.2.target)).length := (List.length_map _).symm
    _ = ((r.listeners.map (·.2.target)).dedup.map
          fun t => (r.listeners.map (·.2.target)).count t).sum :=
        (List.sum_map_count_dedup_eq_length _).symm
    _ = (r.byTarget.keys.map fun t => (r.listeners.map (·.2.target)).count t).sum :=
        (h.keys_perm.map _).sum_eq.symm
    _ = (r.byTarget.toList.map fun p => p.2.length).sum := by rw [hlists]

/-! ## Taking out a listener -/

theorem Consistent.find?_remove_self (h : r.Consistent) (id : Nat) :
    (r.remove id).find? id = none := by
  rw [Option.eq_none_iff_forall_ne_some]
  intro l hfind
  have hmem := (h.remove id).find?_eq_some_iff.mp hfind
  rw [h.listeners_remove, List.mem_filter] at hmem
  simp at hmem

/-- Every other listener stays registered. -/
theorem Consistent.find?_remove_of_ne (h : r.Consistent) {other : Nat} (hne : other ≠ id) :
    (r.remove id).find? other = r.find? other := by
  ext l
  rw [(h.remove id).find?_eq_some_iff, h.find?_eq_some_iff, h.listeners_remove, List.mem_filter]
  simp [hne]

/-- The numbers at a target keep their order. -/
theorem Consistent.idsAt_remove (h : r.Consistent) (id : Nat) (t : Target) :
    (r.remove id).idsAt t = (r.idsAt t).filter (· ≠ id) := by
  rw [(h.remove id).indexed, h.indexed, h.listeners_remove, List.filter_reverse]
  unfold numbersAt
  rw [List.filter_map, List.filter_filter, List.filter_filter]
  -- both sides filter the listeners by target and number, in the other order
  refine congrArg (fun ps : List (Nat × Listener) => (ps.map Prod.fst).reverse) ?_
  apply List.filter_congr
  intro p _
  rw [Bool.and_comm]
  rfl

end Registry

namespace Document

/-- Whatever was done to a document, the two books of its registry agree. A number stands at a target if
and only if the listener with this number waits there; no target is listed without numbers, and the
numbers at a target increase; the numbers at all targets are as many as the listeners, and none is greater
than the last one given. Taking out a listener leaves the others registered and in their order. -/
theorem Leads.books_agree {d : Document} (h : Leads empty d) :
    (∀ (t : Target) (id : Nat), (∃ ids, d.registry.byTarget[t]? = some ids ∧ id ∈ ids) ↔
      ∃ l, d.registry.find? id = some l ∧ l.target = t) ∧
    (∀ (t : Target) (ids : List Nat), d.registry.byTarget[t]? = some ids →
      ids ≠ [] ∧ ids.Pairwise (· < ·) ∧ ids.Nodup) ∧
    d.registry.count = (d.registry.byTarget.toList.map fun p => p.2.length).sum ∧
    (∀ id l, d.registry.find? id = some l → id ≤ d.registry.last) ∧
    ∀ id, (d.unlisten id).registry.find? id = none ∧
      (∀ other, other ≠ id → (d.unlisten id).registry.find? other = d.registry.find? other) ∧
      ∀ t, (d.unlisten id).registry.idsAt t = (d.registry.idsAt t).filter (· ≠ id) := by
  have hkept : d.registry.Kept :=
    h.registry_induct (fun _ l hr => hr.add l) (fun _ id hr => hr.remove id) kept_empty
  refine ⟨?_, ?_, hkept.count_eq, ?_, ?_⟩
  · intro t id
    rw [← hkept.consistent.mem_idsAt_iff]
    constructor
    · rintro ⟨ids, hids, hid⟩
      rwa [(hkept.tidy.getElem?_eq_some_iff.mp hids).2]
    · intro hid
      exact ⟨_, hkept.tidy.getElem?_eq_some_iff.mpr ⟨List.ne_nil_of_mem hid, rfl⟩, hid⟩
  · intro t ids hids
    rcases hkept.tidy.getElem?_eq_some_iff.mp hids with ⟨hne, rfl⟩
    have hincreasing := hkept.consistent.increasing_idsAt t
    exact ⟨hne, hincreasing, hincreasing.imp Nat.ne_of_lt⟩
  · intro id l hfind
    exact hkept.consistent.given id (List.mem_map_of_mem (hkept.consistent.find?_eq_some_iff.mp hfind))
  · intro id
    exact ⟨hkept.consistent.find?_remove_self id,
      fun other hne => hkept.consistent.find?_remove_of_ne hne, hkept.consistent.idsAt_remove id⟩

end Document

namespace Scene

open Document

/-- The first of two scripts takes out itself and the other, which waits elsewhere, and then itself once
more; and it adds a third. -/
def restless : Scene :=
  let s : Scene := { page := { buffer := { unit := .byte } } }
  let s := (s.listen .treePane EventKind.click (utf8 "first")
    [.unlisten 0, .unlisten 1, .unlisten 0, .listen EventKind.click (utf8 "third") []]).2
  (s.listen .body EventKind.click (utf8 "second") []).2

/-- The document after the first script has run. -/
def restlessDocument : Document :=
  (restless.dispatch ⟨EventKind.click, .treePane⟩).2.page.document

/-- The script that the first one added is the only one left. -/
theorem listeners_restlessDocument : ∃ l,
    restlessDocument.registry.listeners = [(3, l)] ∧ l.target = .treePane := by
  have hregistry : restless.page.document.registry.Consistent :=
    (consistent_empty.add _).add _
  have hturns : ∃ ran s', restless.dispatch ⟨EventKind.click, .treePane⟩ = (ran.length, s') ∧
      Turns (fun s : Scene => s.page.document.registry) (run depthLimit) ⟨EventKind.click, .treePane⟩
        (restless.page.document.registry.awaiting ⟨EventKind.click, .treePane⟩) restless ran s' :=
    dispatchWith_turns (fun h ev s => (leads_run depthLimit h ev s).evolves) _ hregistry
  rcases hturns with ⟨ran, s', heq, hturns⟩
  have hawaiting : restless.page.document.registry.awaiting ⟨EventKind.click, .treePane⟩ =
      restless.page.document.registry.listeners.drop 1 := rfl
  rw [hawaiting] at hturns
  unfold restlessDocument
  rw [heq]
  rcases hturns with _ | ⟨_, hrest⟩ | ⟨hout, _⟩
  · cases hrest
    exact ⟨_, rfl, rfl⟩
  · exact absurd (List.mem_cons_of_mem _ List.mem_cons_self) hout

/-- The target of the second script is no longer listed. -/
theorem books_agree_restless :
    restlessDocument.registry.count = 1 ∧
      restlessDocument.registry.byTarget[Target.body]? = none ∧
      (∃ ids, restlessDocument.registry.byTarget[Target.treePane]? = some ids ∧ 3 ∈ ids) ∧
      (restlessDocument.unlisten 3).registry.find? 3 = none := by
  have hstart : Leads empty restless.page.document := (Leads.listen empty _).trans (.listen _ _)
  have hdispatch : Leads restless.page.document restlessDocument :=
    Leads.dispatch (leads_run depthLimit) ⟨EventKind.click, .treePane⟩ restless
  rcases listeners_restlessDocument with ⟨l, hlisteners, htarget⟩
  have hfind : restlessDocument.registry.find? 3 = some l := by
    unfold Registry.find?
    rw [hlisteners]
    rfl
  rcases (hstart.trans hdispatch).books_agree with ⟨hlisted, hlists, -, -, hremove⟩
  refine ⟨congrArg List.length hlisteners, ?_, ?_, (hremove 3).1⟩
  · rw [Option.eq_none_iff_forall_ne_some]
    intro ids hids
    rcases List.exists_mem_of_ne_nil ids (hlists .body ids hids).1 with ⟨id, hid⟩
    rcases (hlisted .body id).mp ⟨ids, hids, hid⟩ with ⟨l', hfind', hbody⟩
    -- a listener would wait at the body, but the only one left waits elsewhere
    rcases remove_listeners hfind' with ⟨newer, older, hsplit, -⟩
    have hmem : (id, l') ∈ [(3, l)] := by
      rw [← hlisteners, hsplit]
      exact List.mem_append_right newer List.mem_cons_self
    cases List.mem_singleton.mp hmem
    cases htarget.symm.trans hbody
  · exact (hlisted .treePane 3).mpr ⟨l, hfind, htarget⟩

end Scene

end SyntaxPlayground
