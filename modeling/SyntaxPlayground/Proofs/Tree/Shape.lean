import SyntaxPlayground.Tree.Basic

/-!
# The shape of trees

Induction over trees, the list of nodes that a walk meets, and the height. A walk meets a node before
its children and the children in order, so the nodes of a tree are the root and then the nodes of
each child (`nodes_node`), and counting them is counting this list (`count_node`).
-/

namespace SyntaxPlayground

namespace Tree

/-! ## Induction -/

mutual

/-- A property holds of every tree if it holds of a node whenever it holds of all its children. -/
theorem induct {motive : Tree → Prop}
    (step : ∀ k l s cs, (∀ c ∈ cs, motive c) → motive (node k l s cs)) :
    ∀ t, motive t
  | node k l s cs => step k l s cs (inductAll step cs)

/-- The same for the trees of a list. -/
theorem inductAll {motive : Tree → Prop}
    (step : ∀ k l s cs, (∀ c ∈ cs, motive c) → motive (node k l s cs)) :
    ∀ ts : List Tree, ∀ t ∈ ts, motive t
  | [], _, h => absurd h List.not_mem_nil
  | t :: ts, u, h => by
    rcases List.mem_cons.mp h with heq | hmem
    · rw [heq]
      exact induct step t
    · exact inductAll step ts u hmem

end

/-! ## The nodes of a tree -/

/-- The nodes of a tree in pre-order. -/
def nodes (t : Tree) : List Tree :=
  t.preorder.map Prod.snd

theorem map_snd_visitAll {ts : List Tree}
    (h : ∀ t ∈ ts, ∀ depth, (visitFrom (fun _ _ => true) depth t).map Prod.snd = t.nodes)
    (depth : Nat) : (visitAll (fun _ _ => true) depth ts).map Prod.snd = ts.flatMap nodes := by
  induction ts with
  | nil => rfl
  | cons t ts ih =>
    have hhead := h t List.mem_cons_self depth
    have htail := ih fun x hx => h x (List.mem_cons_of_mem t hx)
    rw [visitAll, List.map_append, hhead, htail, List.flatMap_cons]

/-- The nodes that a walk meets do not depend on the depth it starts at. -/
theorem map_snd_visitFrom (t : Tree) :
    ∀ depth, (visitFrom (fun _ _ => true) depth t).map Prod.snd = t.nodes := by
  induction t using induct with
  | step k l s cs ih =>
    intro depth
    unfold nodes preorder visit
    simp only [visitFrom, if_true, List.map_cons]
    -- below the roots both walks meet the nodes of the children, whatever depth they are at
    rw [map_snd_visitAll ih (depth + 1), map_snd_visitAll ih (0 + 1)]

/-- The nodes of a tree are the root and the nodes of its children. -/
theorem nodes_node (k : Text) (l : Nat) (s : Option Span) (cs : List Tree) :
    (node k l s cs).nodes = node k l s cs :: cs.flatMap nodes := by
  have hchildren := map_snd_visitAll (fun c (_ : c ∈ cs) => map_snd_visitFrom c) (0 + 1)
  unfold nodes preorder visit
  simp only [visitFrom, if_true, List.map_cons]
  rw [hchildren]
  rfl

theorem mem_nodes_self (t : Tree) : t ∈ t.nodes := by
  rcases t with ⟨k, l, s, cs⟩
  rw [nodes_node]
  exact List.mem_cons_self

theorem mem_nodes_of_child {k : Text} {l : Nat} {s : Option Span} {cs : List Tree} {c n : Tree}
    (hc : c ∈ cs) (hn : n ∈ c.nodes) : n ∈ (node k l s cs).nodes := by
  rw [nodes_node, List.mem_cons, List.mem_flatMap]
  exact Or.inr ⟨c, hc, hn⟩

theorem length_nodes (t : Tree) : t.nodes.length = t.count := by
  unfold nodes count
  rw [List.length_map]

theorem lt_count_of_getElem? {t n : Tree} {k : Nat} (h : t.nodes[k]? = some n) : k < t.count := by
  rw [← length_nodes]
  exact (List.getElem?_eq_some_iff.mp h).1

theorem count_node (k : Text) (l : Nat) (s : Option Span) (cs : List Tree) :
    (node k l s cs).count = (cs.flatMap nodes).length + 1 := by
  rw [← length_nodes, nodes_node, List.length_cons]

theorem count_pos (t : Tree) : 0 < t.count := by
  rcases t with ⟨k, l, s, cs⟩
  rw [count_node]
  exact Nat.succ_pos _

/-! ## Height -/

mutual

/-- The number of nodes on the longest path down from the root. -/
def height : Tree → Nat
  | node _ _ _ cs => heightAll cs + 1

/-- The greatest height among some trees; 0 if there are none. -/
def heightAll : List Tree → Nat
  | [] => 0
  | t :: ts => max (height t) (heightAll ts)

end

end Tree

end SyntaxPlayground
