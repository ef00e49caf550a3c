import SyntaxPlayground.Proofs.Dump.Assembly
import SyntaxPlayground.Proofs.Tree.Position

/-!
# Layered trees

A tree is layered, `Tree.IsLayered`, if children stand deeper than their parent and later siblings no
deeper than earlier ones. These are the trees that levels alone can describe:

* the parent of a node is the nearest record before it of smaller level (`IsLayered.isParentAt_iff`),
  and this holds in no other tree (`isLayered_of_isNearest`);
* the records that a walk meets determine the tree (`IsLayered.eq_of_walk`).

So for some records there is at most one tree that is put together from them in this way, `IsBuiltFrom`.
-/

namespace SyntaxPlayground

namespace Record

/-- Of the records before place `j` the one at place `i` is the nearest of smaller level. -/
def IsNearest (rs : List Record) (i j : Nat) : Prop :=
  i < j ∧ ∃ a b, rs[i]? = some a ∧ rs[j]? = some b ∧ a.level < b.level ∧
    ∀ k c, i < k → k < j → rs[k]? = some c → b.level ≤ c.level

/-- There is only one nearest. -/
theorem IsNearest.unique {rs : List Record} {i i' j : Nat} (h : IsNearest rs i j)
    (h' : IsNearest rs i' j) : i = i' := by
  obtain ⟨hij, a, b, ha, hb, hab, hbetween⟩ := h
  obtain ⟨hij', a', b', ha', hb', hab', hbetween'⟩ := h'
  have hbb' : b = b' := Option.some_inj.mp (hb.symm.trans hb')
  subst hbb'
  rcases Nat.lt_trichotomy i i' with hlt | heq | hgt
  · -- the second stands between the first and the record, and is no deeper than it
    have hle := hbetween i' a' hlt hij' ha'
    omega
  · exact heq
  · have hle := hbetween' i a hgt hij ha
    omega

end Record

/-! ## Layered trees -/

namespace Tree

open Record

/-- Children stand deeper than their parent, and later siblings no deeper than earlier ones. -/
structure IsLayered (t : Tree) : Prop where
  deeper : ∀ n ∈ t.nodes, ∀ c ∈ n.children, n.level < c.level
  ordered : ∀ n ∈ t.nodes, n.children.Pairwise fun a b => b.level ≤ a.level

theorem IsLayered.child {k : Text} {l : Nat} {s : Option Span} {cs : List Tree}
    (h : (node k l s cs).IsLayered) {c : Tree} (hc : c ∈ cs) : c.IsLayered :=
  ⟨fun n hn => h.deeper n (mem_nodes_of_child hc hn), fun n hn => h.ordered n (mem_nodes_of_child hc hn)⟩

theorem isLayered_node {k : Text} {l : Nat} {s : Option Span} {cs : List Tree}
    (hcs : ∀ c ∈ cs, c.IsLayered) (hdeeper : ∀ c ∈ cs, l < c.level)
    (hordered : cs.Pairwise fun a b => b.level ≤ a.level) : (node k l s cs).IsLayered := by
  constructor
  · intro n hn
    rw [nodes_node, List.mem_cons, List.mem_flatMap] at hn
    rcases hn with rfl | ⟨c, hc, hn⟩
    · exact hdeeper
    · exact (hcs c hc).deeper n hn
  · intro n hn
    rw [nodes_node, List.mem_cons, List.mem_flatMap] at hn
    rcases hn with rfl | ⟨c, hc, hn⟩
    · exact hordered
    · exact (hcs c hc).ordered n hn

/-- No node of a layered tree stands higher than its root. -/
theorem IsLayered.level_le {t : Tree} (h : t.IsLayered) : ∀ n ∈ t.nodes, t.level ≤ n.level := by
  induction t using induct with
  | step k l s cs ih =>
    intro n hn
    rw [nodes_node, List.mem_cons, List.mem_flatMap] at hn
    rcases hn with rfl | ⟨c, hc, hn⟩
    · exact Nat.le_refl _
    · have hroot : l < c.level := h.deeper _ (mem_nodes_self _) c hc
      have hbelow := ih c hc (h.child hc) n hn
      exact Nat.le_of_lt (Nat.lt_of_lt_of_le hroot hbelow)

theorem IsLayered.lt_level {k : Text} {l : Nat} {s : Option Span} {cs : List Tree}
    (h : (node k l s cs).IsLayered) : ∀ n ∈ cs.flatMap nodes, l < n.level := by
  intro n hn
  obtain ⟨c, hc, hn⟩ := List.mem_flatMap.mp hn
  have hroot : l < c.level := h.deeper _ (mem_nodes_self _) c hc
  exact Nat.lt_of_lt_of_le hroot ((h.child hc).level_le n hn)

theorem IsLayered.of_mem {t : Tree} (h : t.IsLayered) : ∀ n ∈ t.nodes, n.IsLayered := by
  induction t using induct with
  | step k l s cs ih =>
    intro n hn
    rw [nodes_node, List.mem_cons, List.mem_flatMap] at hn
    rcases hn with rfl | ⟨c, hc, hn⟩
    · exact h
    · exact ih c hc (h.child hc) n hn

/-- The record of a child stands after those of its earlier siblings and the nodes below them. -/
theorem getElem?_record_of_children {t n c : Tree} {i : Nat} {earlier later : List Tree}
    (hn : t.nodes[i]? = some n) (hchildren : n.children = earlier ++ c :: later) :
    (t.nodes.map record)[i + 1 + (earlier.flatMap nodes).length]? = some c.record := by
  rw [List.getElem?_map, (getElem?_of_children hn hchildren).1, Option.map_some]

/-- Between a parent and its child stand the nodes of the siblings before it, none of them higher than the
child. -/
theorem IsLayered.exists_sibling {t : Tree} (h : t.IsLayered) {n c : Tree} {earlier later : List Tree}
    {i k : Nat} {r : Record} (hn : t.nodes[i]? = some n) (hchildren : n.children = earlier ++ c :: later)
    (hlow : i < k) (hhigh : k < i + 1 + (earlier.flatMap nodes).length)
    (hr : (t.nodes.map record)[k]? = some r) :
    ∃ a ∈ earlier, c.level ≤ a.level ∧ a.level ≤ r.level := by
  obtain ⟨_, hbetween⟩ := getElem?_of_children hn hchildren
  have hmem := List.mem_of_getElem? hn
  obtain ⟨k, rfl⟩ : ∃ k', k = i + 1 + k' := ⟨k - (i + 1), by omega⟩
  rw [List.getElem?_map, hbetween k (by omega)] at hr
  obtain ⟨m, hm, rfl⟩ := Option.map_eq_some_iff.mp hr
  obtain ⟨a, ha, hma⟩ := List.mem_flatMap.mp (List.mem_of_getElem? hm)
  have hordered := h.ordered n hmem
  rw [hchildren, List.pairwise_append] at hordered
  have hca : c.level ≤ a.level := hordered.2.2 a ha c List.mem_cons_self
  have hlayered := h.of_mem n hmem
  rcases n with ⟨kind, l, s, cs⟩
  have hacs : a ∈ cs := by
    rw [show cs = earlier ++ c :: later from hchildren]
    exact List.mem_append_left _ ha
  exact ⟨a, ha, hca, (hlayered.child hacs).level_le m hma⟩

/-- In a layered tree parents are the nearest records of smaller level. -/
theorem IsLayered.isNearest {t : Tree} (h : t.IsLayered) {i j : Nat} (hparent : t.IsParentAt i j) :
    IsNearest (t.nodes.map record) i j := by
  obtain ⟨n, earlier, c, later, hn, hchildren, rfl⟩ := hparent
  have hmem := List.mem_of_getElem? hn
  refine ⟨by omega, n.record, c.record, ?_, ?_, ?_, ?_⟩
  · rw [List.getElem?_map, hn, Option.map_some]
  · exact getElem?_record_of_children hn hchildren
  · exact h.deeper n hmem c (by rw [hchildren]; simp)
  · intro k r hlow hhigh hr
    obtain ⟨a, _, hca, har⟩ := h.exists_sibling hn hchildren hlow hhigh hr
    exact Nat.le_trans hca har

/-- And only these are. -/
theorem IsLayered.isParentAt_iff {t : Tree} (h : t.IsLayered) {i j : Nat} :
    t.IsParentAt i j ↔ IsNearest (t.nodes.map record) i j := by
  refine ⟨h.isNearest, ?_⟩
  intro hnearest
  have hj : j < t.count := by
    obtain ⟨_, _, b, _, hb, _⟩ := hnearest
    have hlt := (List.getElem?_eq_some_iff.mp hb).1
    rw [List.length_map, length_nodes] at hlt
    exact hlt
  obtain ⟨i', hparent⟩ := t.exists_isParentAt (Nat.zero_lt_of_lt hnearest.1) hj
  rw [hnearest.unique (h.isNearest hparent)]
  exact hparent

/-- The records below the first root of a forest come before the next root, which stands no deeper than
the first. -/
theorem takeWhile_walk {k : Text} {l : Nat} {s : Option Span} {cs ts : List Tree}
    (h : (node k l s cs).IsLayered) (hts : ∀ t ∈ ts, t.level ≤ l) :
    ((cs.flatMap nodes).map record ++ (ts.flatMap nodes).map record).takeWhile (l < ·.level) =
      (cs.flatMap nodes).map record := by
  have hbelow : ∀ r ∈ (cs.flatMap nodes).map record, decide (l < r.level) = true := by
    intro r hr
    obtain ⟨n, hn, rfl⟩ := List.mem_map.mp hr
    exact decide_eq_true (h.lt_level n hn)
  have hnext : ((ts.flatMap nodes).map record).takeWhile (l < ·.level) = [] := by
    cases ts with
    | nil => rfl
    | cons t ts =>
      have ht := hts t List.mem_cons_self
      rcases t with ⟨k', l', s', cs'⟩
      rw [List.flatMap_cons, nodes_node, List.cons_append, List.map_cons, List.takeWhile_cons_of_neg]
      rw [decide_eq_true_eq]
      exact Nat.not_lt.mpr ht
  rw [List.takeWhile_append_of_pos hbelow, hnext, List.append_nil]

/-- The walk through some siblings as it begins with the first of them. -/
theorem map_record_cons (k : Text) (l : Nat) (s : Option Span) (cs ts : List Tree) :
    ((node k l s cs :: ts).flatMap nodes).map record =
      ⟨k, l, s⟩ :: ((cs.flatMap nodes).map record ++ (ts.flatMap nodes).map record) := by
  rw [List.flatMap_cons, nodes_node, List.cons_append, List.map_cons, List.map_append]
  rfl

/-- Layered trees of which no later one stands deeper than an earlier one. -/
structure AreLayered (ts : List Tree) : Prop where
  each : ∀ t ∈ ts, t.IsLayered
  ordered : ts.Pairwise fun a b => b.level ≤ a.level

theorem AreLayered.tail {t : Tree} {ts : List Tree} (h : AreLayered (t :: ts)) :
    AreLayered ts ∧ ∀ u ∈ ts, u.level ≤ t.level := by
  have hordered := List.pairwise_cons.mp h.ordered
  exact ⟨⟨fun u hu => h.each u (List.mem_cons_of_mem t hu), hordered.2⟩, hordered.1⟩

theorem IsLayered.children {k : Text} {l : Nat} {s : Option Span} {cs : List Tree}
    (h : (node k l s cs).IsLayered) : AreLayered cs :=
  ⟨fun _ hc => h.child hc, h.ordered _ (mem_nodes_self _)⟩

/-- The walk through layered siblings determines them. -/
theorem AreLayered.eq_of_walk {ts us : List Tree} (hts : AreLayered ts) (hus : AreLayered us)
    (hwalk : (ts.flatMap nodes).map record = (us.flatMap nodes).map record) : ts = us := by
  -- the induction is on the number of records, for it goes on with the children and with the siblings
  induction hsize : (ts.flatMap nodes).length using Nat.strongRecOn generalizing ts us with
  | ind size ih =>
    cases ts with
    | nil =>
      cases us with
      | nil => rfl
      | cons u us =>
        rcases u with ⟨k, l, s, cs⟩
        rw [map_record_cons] at hwalk
        cases hwalk
    | cons t ts =>
      rcases t with ⟨k, l, s, cs⟩
      cases us with
      | nil =>
        rw [map_record_cons] at hwalk
        cases hwalk
      | cons u us =>
        rcases u with ⟨k', l', s', ds⟩
        rw [map_record_cons, map_record_cons, List.cons.injEq, Record.mk.injEq] at hwalk
        obtain ⟨⟨rfl, rfl, rfl⟩, hrest⟩ := hwalk
        have ht := hts.each _ List.mem_cons_self
        have hu := hus.each _ List.mem_cons_self
        -- what is below the first root ends where the levels come back to its own
        have hbelow := takeWhile_walk ht hts.tail.2
        rw [hrest, takeWhile_walk hu hus.tail.2] at hbelow
        have hafter : (ts.flatMap nodes).map record = (us.flatMap nodes).map record := by
          rw [hbelow] at hrest
          exact List.append_cancel_left hrest
        rw [List.flatMap_cons, nodes_node, List.cons_append, List.length_cons, List.length_append] at hsize
        have hchildren : cs = ds := ih _ (by omega) ht.children hu.children hbelow.symm rfl
        have hsiblings : ts = us := ih _ (by omega) hts.tail.1 hus.tail.1 hafter rfl
        rw [hchildren, hsiblings]

/-- The walk through a layered tree determines it. -/
theorem IsLayered.eq_of_walk {t u : Tree} (ht : t.IsLayered) (hu : u.IsLayered)
    (hwalk : t.nodes.map record = u.nodes.map record) : t = u := by
  have hsingle : ∀ {v : Tree}, v.IsLayered → AreLayered [v] := by
    intro v hv
    refine ⟨?_, List.pairwise_singleton _ _⟩
    intro w hw
    rw [List.mem_singleton.mp hw]
    exact hv
  have hlist : [t] = [u] := by
    apply (hsingle ht).eq_of_walk (hsingle hu)
    rw [List.flatMap_singleton, List.flatMap_singleton]
    exact hwalk
  exact List.singleton_inj.mp hlist

/-- A tree in which parents are the nearest records of smaller level is layered. -/
theorem isLayered_of_isNearest {t : Tree}
    (h : ∀ i j, t.IsParentAt i j → IsNearest (t.nodes.map record) i j) : t.IsLayered := by
  -- what the place of a child says about it and about the siblings before it
  have hchild : ∀ {n : Tree}, n ∈ t.nodes → ∀ {earlier c later}, n.children = earlier ++ c :: later →
      n.level < c.level ∧ ∀ a ∈ earlier, c.level ≤ a.level := by
    intro n hn earlier c later hchildren
    obtain ⟨i, hi⟩ := List.getElem?_of_mem hn
    obtain ⟨_, r, r', hr, hr', hlt, hbetween⟩ := h i _ ⟨n, earlier, c, later, hi, hchildren, rfl⟩
    rw [List.getElem?_map, hi] at hr
    rw [getElem?_record_of_children hi hchildren] at hr'
    cases hr
    cases hr'
    refine ⟨hlt, ?_⟩
    intro a ha
    obtain ⟨before, after, rfl⟩ := List.append_of_mem ha
    have hsplit : n.children = before ++ a :: (after ++ c :: later) := by
      rw [hchildren, List.append_assoc, List.cons_append]
    apply hbetween (i + 1 + (before.flatMap nodes).length) a.record
    · omega
    · have hpos := a.count_pos
      rw [List.flatMap_append, List.flatMap_cons, List.length_append, List.length_append, length_nodes]
      omega
    · exact getElem?_record_of_children hi hsplit
  constructor
  · intro n hn c hc
    obtain ⟨earlier, later, hchildren⟩ := List.append_of_mem hc
    exact (hchild hn hchildren).1
  · intro n hn
    rw [List.pairwise_iff_getElem]
    intro p q hp hq hpq
    have hchildren : n.children = n.children.take q ++ n.children[q] :: n.children.drop (q + 1) := by
      rw [List.getElem_cons_drop, List.take_append_drop]
    apply (hchild hn hchildren).2
    exact List.mem_take_iff_getElem.mpr ⟨p, by omega, rfl⟩

end Tree

/-! ## Trees and their records -/

namespace Tree

open Record

/-- The tree is put together from the records: a walk meets them in order, each once, and the parent of
every one but the first is the nearest record before it of smaller level. -/
structure IsBuiltFrom (t : Tree) (rs : List Record) : Prop where
  walk : t.nodes.map record = rs
  parent : ∀ j, 0 < j → j < rs.length → ∃ i, t.IsParentAt i j
  nearest : ∀ i j, t.IsParentAt i j ↔ IsNearest rs i j

theorem IsLayered.isBuiltFrom {t : Tree} (h : t.IsLayered) {rs : List Record}
    (hwalk : t.nodes.map record = rs) : t.IsBuiltFrom rs := by
  subst hwalk
  refine ⟨rfl, ?_, fun i j => h.isParentAt_iff⟩
  intro j hpos hj
  rw [List.length_map, length_nodes] at hj
  exact t.exists_isParentAt hpos hj

theorem IsBuiltFrom.isLayered {t : Tree} {rs : List Record} (h : t.IsBuiltFrom rs) : t.IsLayered := by
  apply isLayered_of_isNearest
  intro i j hparent
  rw [h.walk]
  exact (h.nearest i j).mp hparent

/-- There is only one tree that is put together from the records. -/
theorem IsBuiltFrom.unique {t u : Tree} {rs : List Record} (ht : t.IsBuiltFrom rs)
    (hu : u.IsBuiltFrom rs) : t = u :=
  ht.isLayered.eq_of_walk hu.isLayered (ht.walk.trans hu.walk.symm)

end Tree

end SyntaxPlayground
