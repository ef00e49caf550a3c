import SyntaxPlayground.Proofs.Tree.Shape

/-!
# Places in a walk

A walk through a tree meets every node at one place. The nodes below a node come right after it, so a
node of the tree begins a block of the walk that holds its own nodes (`exists_block`). From this one can
read off who is whose parent: `IsParentAt` relates the place of a node to the place of its child, and
every place but the first is that of a child (`exists_isParentAt`).
-/

namespace SyntaxPlayground

namespace Tree

/-! ## Blocks -/

/-- A place in the walks through some trees is a place in the walk through one of them. -/
theorem exists_of_getElem?_flatMap {ts : List Tree} {i : Nat} {n : Tree}
    (h : (ts.flatMap nodes)[i]? = some n) : ∃ earlier t later j, ts = earlier ++ t :: later ∧
      i = (earlier.flatMap nodes).length + j ∧ t.nodes[j]? = some n := by
  induction ts generalizing i with
  | nil => simp at h
  | cons t ts ih =>
    rw [List.flatMap_cons] at h
    by_cases hi : i < t.nodes.length
    · rw [List.getElem?_append_left hi] at h
      exact ⟨[], t, ts, i, rfl, by simp, h⟩
    · -- the place is beyond the first tree
      rw [List.getElem?_append_right (Nat.not_lt.mp hi)] at h
      obtain ⟨earlier, u, later, j, rfl, hj, hn⟩ := ih h
      refine ⟨t :: earlier, u, later, j, rfl, ?_, hn⟩
      rw [List.flatMap_cons, List.length_append]
      omega

/-- The nodes of a node stand together in the walk through the tree. -/
theorem exists_block (t : Tree) {i : Nat} {n : Tree} (h : t.nodes[i]? = some n) :
    ∃ before after, t.nodes = before ++ n.nodes ++ after ∧ before.length = i := by
  induction t using induct generalizing i with
  | step k l s cs ih =>
    rw [nodes_node] at h
    cases i with
    | zero =>
      rw [List.getElem?_cons_zero, Option.some_inj] at h
      refine ⟨[], [], ?_, rfl⟩
      rw [h, List.nil_append, List.append_nil]
    | succ i =>
      rw [List.getElem?_cons_succ] at h
      obtain ⟨earlier, c, later, j, rfl, rfl, hn⟩ := exists_of_getElem?_flatMap h
      obtain ⟨before, after, hblock, hlength⟩ := ih c (by simp) hn
      refine ⟨node k l s (earlier ++ c :: later) :: (earlier.flatMap nodes ++ before),
        after ++ later.flatMap nodes, ?_, ?_⟩
      · rw [nodes_node, List.flatMap_append, List.flatMap_cons, hblock]
        simp only [List.append_assoc, List.cons_append]
      · rw [List.length_cons, List.length_append, hlength]

/-! ## Parents -/

/-- The node at place `i` has the node at place `j` as a child: between the two stand the nodes of the
siblings before it. -/
def IsParentAt (t : Tree) (i j : Nat) : Prop :=
  ∃ n earlier c later, t.nodes[i]? = some n ∧ n.children = earlier ++ c :: later ∧
    j = i + 1 + (earlier.flatMap nodes).length

/-- What stands at and between the places of a parent and its child. -/
theorem getElem?_of_children {t n c : Tree} {i : Nat} {earlier later : List Tree}
    (hn : t.nodes[i]? = some n) (hchildren : n.children = earlier ++ c :: later) :
    t.nodes[i + 1 + (earlier.flatMap nodes).length]? = some c ∧
      ∀ k, k < (earlier.flatMap nodes).length →
        t.nodes[i + 1 + k]? = (earlier.flatMap nodes)[k]? := by
  obtain ⟨before, after, hblock, rfl⟩ := t.exists_block hn
  rcases n with ⟨kind, l, s, cs⟩
  rcases c with ⟨kind', l', s', cs'⟩
  have hcs : cs = earlier ++ node kind' l' s' cs' :: later := hchildren
  have hnodes : t.nodes = before ++ node kind l s cs :: (earlier.flatMap nodes ++
      node kind' l' s' cs' :: (cs'.flatMap nodes ++ later.flatMap nodes ++ after)) := by
    rw [hblock, nodes_node, hcs, List.flatMap_append, List.flatMap_cons, nodes_node]
    simp only [List.append_assoc, List.cons_append]
  constructor
  · rw [hnodes, List.getElem?_append_right (by omega),
      show before.length + 1 + (earlier.flatMap nodes).length - before.length =
        (earlier.flatMap nodes).length + 1 by omega,
      List.getElem?_cons_succ, List.getElem?_append_right (Nat.le_refl _), Nat.sub_self,
      List.getElem?_cons_zero]
  · intro k hk
    rw [hnodes, List.getElem?_append_right (by omega),
      show before.length + 1 + k - before.length = k + 1 by omega,
      List.getElem?_cons_succ, List.getElem?_append_left hk]

/-- Every place but the first is that of a child. -/
theorem exists_isParentAt (t : Tree) {j : Nat} (hpos : 0 < j) (hj : j < t.count) :
    ∃ i, t.IsParentAt i j := by
  induction t using induct generalizing j with
  | step k l s cs ih =>
    obtain ⟨j, rfl⟩ : ∃ j', j = j' + 1 := ⟨j - 1, by omega⟩
    have hlt : j < (cs.flatMap nodes).length := by
      rw [count_node] at hj
      omega
    obtain ⟨earlier, c, later, m, rfl, rfl, hm⟩ :=
      exists_of_getElem?_flatMap (List.getElem?_eq_getElem hlt)
    rcases Nat.eq_zero_or_pos m with rfl | hm'
    · -- the place is that of a child of the root
      exact ⟨0, node k l s _, earlier, c, later, by rw [nodes_node]; rfl, rfl, by omega⟩
    · -- the parent stands in the same subtree
      obtain ⟨i, n, earlier', c', later', hi, hchildren, rfl⟩ :=
        ih c (by simp) hm' (lt_count_of_getElem? hm)
      refine ⟨(earlier.flatMap nodes).length + i + 1, n, earlier', c', later', ?_, hchildren, by omega⟩
      have hlt' := (List.getElem?_eq_some_iff.mp hi).1
      rw [nodes_node, List.getElem?_cons_succ, List.flatMap_append, List.flatMap_cons,
        List.getElem?_append_right (by omega), Nat.add_sub_cancel_left,
        List.getElem?_append_left hlt', hi]

end Tree

end SyntaxPlayground
