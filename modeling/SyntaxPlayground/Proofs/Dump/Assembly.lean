import SyntaxPlayground.Dump.Reader
import SyntaxPlayground.Proofs.Tree.Shape

/-!
# Records put together to a tree

The reader attaches the records of a dump one by one to the path it keeps. If the records come from a
walk through a tree, each with its depth as its level, this rebuilds the tree (`ofRecords_recordsAll`):
climbing to a depth from wherever the walk through a subtree has left the path finds the node that the
walk came from, with the subtree added to its children (`climb_foldl_recordsFrom`). And whatever the
records are, each node of the tree is one of them (`forall_nodes_ofRecords`).
-/

namespace SyntaxPlayground

namespace Tree

/-! ## The records of a tree -/

/-- The record of the root of a tree. -/
def record (t : Tree) : Record :=
  ⟨t.kind, t.level, t.span⟩

mutual

/-- The records of a tree as a walk meets its nodes, the first one at the given depth. -/
def recordsFrom (depth : Nat) : Tree → List Record
  | node k _ s cs => ⟨k, depth, s⟩ :: recordsAll (depth + 1) cs

/-- The records of some siblings. -/
def recordsAll (depth : Nat) : List Tree → List Record
  | [] => []
  | t :: ts => recordsFrom depth t ++ recordsAll depth ts

end

mutual

/-- The tree with the depth of each node as its level, the first one at the given depth. -/
def relevel (depth : Nat) : Tree → Tree
  | node k _ s cs => node k depth s (relevelAll (depth + 1) cs)

/-- Siblings with the depth of each node as its level. -/
def relevelAll (depth : Nat) : List Tree → List Tree
  | [] => []
  | t :: ts => relevel depth t :: relevelAll depth ts

end

theorem le_level_of_mem_recordsAll {depth : Nat} {ts : List Tree}
    (h : ∀ t ∈ ts, ∀ r ∈ recordsFrom depth t, depth ≤ r.level) :
    ∀ r ∈ recordsAll depth ts, depth ≤ r.level := by
  induction ts with
  | nil =>
    intro r hr
    exact absurd hr List.not_mem_nil
  | cons t ts ih =>
    intro r hr
    rw [recordsAll, List.mem_append] at hr
    rcases hr with hr | hr
    · exact h t List.mem_cons_self r hr
    · exact ih (fun x hx => h x (List.mem_cons_of_mem t hx)) r hr

/-- No record of a tree stands higher than its root. -/
theorem le_level_of_mem_recordsFrom (t : Tree) :
    ∀ depth, ∀ r ∈ recordsFrom depth t, depth ≤ r.level := by
  induction t using induct with
  | step k l s cs ih =>
    intro depth r hr
    rw [recordsFrom, List.mem_cons] at hr
    rcases hr with rfl | hr
    · exact Nat.le_refl depth
    · have hbelow := le_level_of_mem_recordsAll (fun c hc => ih c hc (depth + 1)) r hr
      exact Nat.le_of_succ_le hbelow

end Tree

namespace Path

open SyntaxPlayground.Tree

/-! ## Climbing -/

theorem climb_cons_of_le {level : Nat} {n : OpenNode} (h : level ≤ n.record.level) (parent : OpenNode)
    (above : List OpenNode) :
    climb level n (parent :: above) = climb level (parent.adopt n.close) above := by
  rw [climb, if_pos h]

theorem climb_of_lt {level : Nat} {n : OpenNode} (h : n.record.level < level)
    (above : List OpenNode) : climb level n above = ⟨n, above⟩ := by
  cases above with
  | nil => rfl
  | cons parent above => rw [climb, if_neg (Nat.not_le.mpr h)]

/-- Climbing ends at a node of smaller level, or at the root. -/
theorem climb_settled (level : Nat) (n : OpenNode) (above : List OpenNode) :
    (climb level n above).latest.record.level < level ∨ (climb level n above).above = [] := by
  induction above generalizing n with
  | nil => exact Or.inr rfl
  | cons parent above ih =>
    by_cases h : level ≤ n.record.level
    · rw [climb_cons_of_le h]
      exact ih (parent.adopt n.close)
    · rw [climb_of_lt (Nat.not_le.mp h)]
      exact Or.inl (Nat.not_le.mp h)

/-- Where climbing has ended it ends again after a child was added there. -/
theorem climb_adopt {level : Nat} {n : OpenNode} {above : List OpenNode}
    (h : n.record.level < level ∨ above = []) (t : Tree) :
    climb level (n.adopt t) above = ⟨n.adopt t, above⟩ := by
  rcases h with hlt | rfl
  · have hadopt : (n.adopt t).record.level < level := hlt
    exact climb_of_lt hadopt above
  · rfl

/-- Climbing can stop on the way. -/
theorem climb_climb {level level' : Nat} (h : level ≤ level') (n : OpenNode)
    (above : List OpenNode) :
    climb level (climb level' n above).latest (climb level' n above).above =
      climb level n above := by
  induction above generalizing n with
  | nil => rfl
  | cons parent above ih =>
    by_cases hn : level' ≤ n.record.level
    · rw [climb_cons_of_le hn, climb_cons_of_le (Nat.le_trans h hn)]
      exact ih (parent.adopt n.close)
    · rw [climb_of_lt (Nat.not_le.mp hn)]

/-- Closing every node can stop on the way. -/
theorem closeAll_climb (level : Nat) (n : OpenNode) (above : List OpenNode) :
    closeAll (climb level n above).latest (climb level n above).above = closeAll n above := by
  induction above generalizing n with
  | nil => rfl
  | cons parent above ih =>
    by_cases h : level ≤ n.record.level
    · rw [climb_cons_of_le h, closeAll]
      exact ih (parent.adopt n.close)
    · rw [climb_of_lt (Nat.not_le.mp h)]

/-! ## The walk through a tree -/

/-- A tree is attached: after its records, climbing to its depth ends where it would have ended before
them, at a node with one more child. -/
def Attaches (t : Tree) : Prop :=
  ∀ (depth : Nat) (p q : Path), climb depth p.latest p.above = q →
    climb depth ((recordsFrom depth t).foldl add p).latest
        ((recordsFrom depth t).foldl add p).above =
      ⟨q.latest.adopt (t.relevel depth), q.above⟩

/-- Siblings are attached one after the other. -/
theorem climb_foldl_recordsAll {cs : List Tree} (h : ∀ c ∈ cs, Attaches c) (depth : Nat)
    (p q : Path) (hq : climb depth p.latest p.above = q) :
    climb depth ((recordsAll depth cs).foldl add p).latest
        ((recordsAll depth cs).foldl add p).above =
      ⟨⟨q.latest.record, (relevelAll depth cs).reverse ++ q.latest.done⟩, q.above⟩ := by
  induction cs generalizing p q with
  | nil => exact hq
  | cons c cs ih =>
    have hhead := h c List.mem_cons_self depth p q hq
    have htail := ih (fun x hx => h x (List.mem_cons_of_mem c hx)) _ _ hhead
    rw [recordsAll, List.foldl_append, htail, relevelAll, List.reverse_cons, List.append_assoc]
    rfl

/-- Every tree is attached. -/
theorem climb_foldl_recordsFrom (t : Tree) : Attaches t := by
  induction t using Tree.induct with
  | step k l s cs ih =>
    intro depth p q hq
    -- the path with the root of the tree as its latest node
    have hadd : p.add ⟨k, depth, s⟩ = ⟨⟨⟨k, depth, s⟩, []⟩, q.latest :: q.above⟩ := by
      unfold add
      rw [hq]
    have hopen : climb (depth + 1) (p.add ⟨k, depth, s⟩).latest (p.add ⟨k, depth, s⟩).above =
        ⟨⟨⟨k, depth, s⟩, []⟩, q.latest :: q.above⟩ := by
      rw [hadd]
      exact climb_of_lt (Nat.lt_succ_self depth) _
    have hchildren := climb_foldl_recordsAll ih (depth + 1) (p.add ⟨k, depth, s⟩) _ hopen
    -- after the children the path ends at this node, and its parent takes it
    have hsettled := climb_settled depth p.latest p.above
    rw [hq] at hsettled
    rw [recordsFrom, List.foldl_cons, ← climb_climb (Nat.le_succ depth), hchildren,
      climb_cons_of_le (Nat.le_refl depth), climb_adopt hsettled]
    simp only [List.append_nil, OpenNode.close, List.reverse_reverse, relevel]

end Path

namespace Tree

open SyntaxPlayground.Path

/-- The records of a tree, put together, give the tree with depths as levels. -/
theorem ofRecords_recordsAll (root : Record) (cs : List Tree) :
    ofRecords root (recordsAll 1 cs) =
      node root.kind root.level root.span (relevelAll 1 cs) := by
  have hchildren := climb_foldl_recordsAll (fun c (_ : c ∈ cs) => climb_foldl_recordsFrom c) 1
    ⟨⟨root, []⟩, []⟩ ⟨⟨root, []⟩, []⟩ rfl
  unfold ofRecords
  rw [← closeAll_climb 1, hchildren]
  simp only [closeAll, OpenNode.close, List.append_nil, List.reverse_reverse]

end Tree

/-! ## Every node is a record -/

namespace OpenNode

/-- A property holds of the record of the node and of all records below it. -/
structure All (P : Record → Prop) (n : OpenNode) : Prop where
  own : P n.record
  below : ∀ t ∈ n.done, ∀ m ∈ t.nodes, P m.record

variable {P : Record → Prop}

theorem All.close {n : OpenNode} (h : n.All P) : ∀ m ∈ n.close.nodes, P m.record := by
  intro m hm
  unfold OpenNode.close at hm
  rw [Tree.nodes_node, List.mem_cons, List.mem_flatMap] at hm
  rcases hm with rfl | ⟨t, ht, hm⟩
  · exact h.own
  · exact h.below t (List.mem_reverse.mp ht) m hm

theorem All.adopt {n : OpenNode} (h : n.All P) {t : Tree} (ht : ∀ m ∈ t.nodes, P m.record) :
    (n.adopt t).All P := by
  refine ⟨h.own, ?_⟩
  intro u hu
  rcases List.mem_cons.mp hu with rfl | hu
  · exact ht
  · exact h.below u hu

end OpenNode

namespace Path

variable {P : Record → Prop}

/-- A property holds of all records of a path, and the root has the given record. -/
def Keeps (P : Record → Prop) (root : Record) (n : OpenNode) (above : List OpenNode) : Prop :=
  (∀ m ∈ n :: above, m.All P) ∧ ((n :: above).getLast (List.cons_ne_nil n above)).record = root

/-- Leaving the latest node keeps the records. -/
theorem Keeps.leave {root : Record} {n parent : OpenNode} {above : List OpenNode}
    (h : Keeps P root n (parent :: above)) : Keeps P root (parent.adopt n.close) above := by
  constructor
  · intro m hm
    rcases List.mem_cons.mp hm with rfl | hm
    · exact (h.1 parent (by simp)).adopt (h.1 n List.mem_cons_self).close
    · exact h.1 m (by simp [hm])
  · have hroot := h.2
    rw [List.getLast_cons (List.cons_ne_nil parent above)] at hroot
    cases above with
    | nil => exact hroot
    | cons m above =>
      rw [List.getLast_cons (List.cons_ne_nil m above)] at hroot ⊢
      exact hroot

theorem Keeps.climb {root : Record} {n : OpenNode} {above : List OpenNode}
    (h : Keeps P root n above) (level : Nat) :
    Keeps P root (Path.climb level n above).latest (Path.climb level n above).above := by
  induction above generalizing n with
  | nil => exact h
  | cons parent above ih =>
    by_cases hlevel : level ≤ n.record.level
    · rw [climb_cons_of_le hlevel]
      exact ih h.leave
    · rw [climb_of_lt (Nat.not_le.mp hlevel)]
      exact h

theorem Keeps.add {root : Record} {p : Path} (h : Keeps P root p.latest p.above) {r : Record}
    (hr : P r) : Keeps P root (p.add r).latest (p.add r).above := by
  have hclimb := h.climb r.level
  constructor
  · intro m hm
    rcases List.mem_cons.mp hm with rfl | hm
    · refine ⟨hr, ?_⟩
      intro t ht
      exact absurd ht List.not_mem_nil
    · exact hclimb.1 m hm
  · exact hclimb.2

theorem Keeps.foldl {root : Record} {p : Path} (h : Keeps P root p.latest p.above)
    {rs : List Record} (hrs : ∀ r ∈ rs, P r) :
    Keeps P root (rs.foldl Path.add p).latest (rs.foldl Path.add p).above := by
  induction rs generalizing p with
  | nil => exact h
  | cons r rs ih =>
    exact ih (h.add (hrs r List.mem_cons_self)) fun x hx => hrs x (List.mem_cons_of_mem r hx)

theorem Keeps.closeAll {root : Record} {n : OpenNode} {above : List OpenNode}
    (h : Keeps P root n above) :
    (Path.closeAll n above).record = root ∧ ∀ m ∈ (Path.closeAll n above).nodes, P m.record := by
  induction above generalizing n with
  | nil => exact ⟨h.2, (h.1 n List.mem_cons_self).close⟩
  | cons parent above ih => exact ih h.leave

end Path

/-- What holds of all records holds of all nodes, and the root is the first record. -/
theorem Tree.forall_nodes_ofRecords {P : Record → Prop} {root : Record} {rest : List Record}
    (hroot : P root) (hrest : ∀ r ∈ rest, P r) :
    (ofRecords root rest).record = root ∧ ∀ m ∈ (ofRecords root rest).nodes, P m.record := by
  have hstart : Path.Keeps P root ⟨root, []⟩ [] := by
    refine ⟨?_, rfl⟩
    intro m hm
    rw [List.mem_singleton.mp hm]
    refine ⟨hroot, ?_⟩
    intro t ht
    exact absurd ht List.not_mem_nil
  exact (Path.Keeps.foldl (p := ⟨⟨root, []⟩, []⟩) hstart hrest).closeAll

end SyntaxPlayground
