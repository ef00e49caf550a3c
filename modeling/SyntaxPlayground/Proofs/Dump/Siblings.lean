import SyntaxPlayground.Proofs.Dump.Ancestry

/-!
# Levels of siblings

In the tree of a dump later siblings never stand deeper than earlier ones, but they can stand higher: a
record may come back to a level that was skipped on the way down, and then it joins siblings that stand
deeper (`skippedLevel_parts_siblings`). `siblings_share_level_iff` says that this is the only way: siblings
share a level exactly if every record that is no deeper than the one before it returns to a level that is
open there, `Record.Returns`. Where no level is ever skipped, a child stands one level below its parent.
-/

namespace SyntaxPlayground

namespace Record

/-- The record at place `j` returns to a level that is open there: an earlier record stands at the same
level, and no record between the two stands higher. -/
def Returns (rs : List Record) (j : Nat) : Prop :=
  ∃ i a b, i < j ∧ rs[i]? = some a ∧ rs[j]? = some b ∧ a.level = b.level ∧
    ∀ k c, i < k → k < j → rs[k]? = some c → b.level ≤ c.level

end Record

namespace Tree

open Record

/-- All children of the node stand at one level. -/
def SharesLevel (n : Tree) : Prop :=
  ∀ a ∈ n.children, ∀ b ∈ n.children, a.level = b.level

instance (n : Tree) : Decidable n.SharesLevel :=
  inferInstanceAs (Decidable (∀ a ∈ n.children, ∀ b ∈ n.children, a.level = b.level))

/-- Trees stand at one level if each but the first stands at the level of an earlier one. -/
theorem level_eq_of_exists_earlier {ts : List Tree}
    (h : ∀ earlier c later, ts = earlier ++ c :: later → earlier ≠ [] → ∃ a ∈ earlier, a.level = c.level) :
    ∀ a ∈ ts, ∀ b ∈ ts, a.level = b.level := by
  cases ts with
  | nil => exact fun a ha => absurd ha List.not_mem_nil
  | cons t ts =>
    -- the induction is on the place of a tree, from which it goes back to the first
    have hfirst : ∀ size earlier c later, t :: ts = earlier ++ c :: later → earlier.length = size →
        c.level = t.level := by
      intro size
      induction size using Nat.strongRecOn with
      | ind size ih =>
        intro earlier c later hts hsize
        cases earlier with
        | nil =>
          cases hts
          rfl
        | cons e earlier =>
          obtain ⟨a, ha, hac⟩ := h _ c later hts (List.cons_ne_nil e earlier)
          obtain ⟨before, between, hsplit⟩ := List.append_of_mem ha
          rw [hsplit] at hts hsize
          rw [List.length_append, List.length_cons] at hsize
          rw [List.append_assoc] at hts
          rw [← hac]
          exact ih before.length (by omega) before a (between ++ c :: later) hts rfl
    have hlevel : ∀ c ∈ t :: ts, c.level = t.level := by
      intro c hc
      obtain ⟨earlier, later, hts⟩ := List.append_of_mem hc
      exact hfirst _ earlier c later hts rfl
    intro a ha b hb
    rw [hlevel a ha, hlevel b hb]

/-! ## Siblings in a layered tree -/

section Layered

variable {t n : Tree} {i : Nat}

/-- The record of the first child stands right after that of the node. -/
theorem getElem?_record_of_cons (hn : t.nodes[i]? = some n) {c : Tree} {later : List Tree}
    (hchildren : n.children = c :: later) : (t.nodes.map record)[i + 1]? = some c.record := by
  have hsplit : n.children = [] ++ c :: later := hchildren
  have hplace := getElem?_record_of_children hn hsplit
  rwa [List.flatMap_nil, List.length_nil, Nat.add_zero] at hplace

/-- If the children of a node share a level, each but the first returns to the level of the first. -/
theorem IsLayered.returns_of_sharesLevel (h : t.IsLayered) (hn : t.nodes[i]? = some n)
    (hshares : n.SharesLevel) {j : Nat} (hnearest : IsNearest (t.nodes.map record) i j)
    (hj : j ≠ i + 1) : Returns (t.nodes.map record) j := by
  obtain ⟨n', earlier, c, later, hn', hchildren, rfl⟩ := h.isParentAt_iff.mpr hnearest
  obtain rfl : n' = n := Option.some_inj.mp (hn'.symm.trans hn)
  obtain ⟨_, _, b, _, hb, _, hbetween⟩ := hnearest
  have hc := getElem?_record_of_children hn hchildren
  obtain rfl : b = c.record := Option.some_inj.mp (hb.symm.trans hc)
  cases earlier with
  | nil => exact absurd rfl hj
  | cons a earlier =>
    have ha := getElem?_record_of_cons hn hchildren
    have hpos := a.count_pos
    rw [← length_nodes] at hpos
    have hlevel : a.level = c.level := hshares a (by rw [hchildren]; simp) c (by rw [hchildren]; simp)
    refine ⟨i + 1, a.record, c.record, ?_, ha, hc, hlevel, ?_⟩
    · rw [List.flatMap_cons, List.length_append]
      omega
    · intro k r hlow hhigh hr
      exact hbetween k r (by omega) hhigh hr

/-- A child that returns to a level stands at the level of an earlier sibling. -/
theorem IsLayered.exists_earlier_of_returns (h : t.IsLayered) (hn : t.nodes[i]? = some n) {c : Tree}
    {earlier later : List Tree} (hchildren : n.children = earlier ++ c :: later)
    (hreturns : Returns (t.nodes.map record) (i + 1 + (earlier.flatMap nodes).length)) :
    ∃ a ∈ earlier, a.level = c.level := by
  obtain ⟨k, r, b, hk, hr, hb, hlevel, hbetween⟩ := hreturns
  have hc := getElem?_record_of_children hn hchildren
  obtain rfl : b = c.record := Option.some_inj.mp (hb.symm.trans hc)
  have hroot : (t.nodes.map record)[i]? = some n.record := by
    rw [List.getElem?_map, hn, Option.map_some]
  have hdeeper : n.level < c.level :=
    h.deeper n (List.mem_of_getElem? hn) c (by rw [hchildren]; simp)
  -- the record stands below the parent, for the parent is higher than the child
  have hlow : i < k := by
    rcases Nat.lt_trichotomy i k with hlt | rfl | hgt
    · exact hlt
    · have hsame : r = n.record := Option.some_inj.mp (hr.symm.trans hroot)
      rw [hsame] at hlevel
      exact absurd hlevel (Nat.ne_of_lt hdeeper)
    · have hle : c.level ≤ n.level := hbetween i n.record hgt (by omega) hroot
      omega
  obtain ⟨a, ha, hca, har⟩ := h.exists_sibling hn hchildren hlow hk hr
  have hrc : r.level = c.level := hlevel
  exact ⟨a, ha, by omega⟩

/-- The children of a node share a level if and only if each but the first returns to its level. -/
theorem IsLayered.sharesLevel_iff (h : t.IsLayered) (hn : t.nodes[i]? = some n) :
    n.SharesLevel ↔ ∀ j, IsNearest (t.nodes.map record) i j → j ≠ i + 1 →
      Returns (t.nodes.map record) j := by
  refine ⟨fun hshares j hnearest hj => h.returns_of_sharesLevel hn hshares hnearest hj, ?_⟩
  intro hreturns
  apply level_eq_of_exists_earlier
  intro earlier c later hchildren hne
  apply h.exists_earlier_of_returns hn hchildren
  apply hreturns _ (h.isNearest ⟨n, earlier, c, later, hn, hchildren, rfl⟩)
  obtain ⟨a, before, rfl⟩ := List.exists_cons_of_ne_nil hne
  have hpos := a.count_pos
  rw [List.flatMap_cons, List.length_append, length_nodes]
  omega

/-- All siblings share their level if and only if every record that is no deeper than the one before it
returns to its level. -/
theorem IsLayered.forall_sharesLevel_iff (h : t.IsLayered) :
    (∀ n ∈ t.nodes, n.SharesLevel) ↔ ∀ j a b, (t.nodes.map record)[j]? = some a →
      (t.nodes.map record)[j + 1]? = some b → b.level ≤ a.level →
      Returns (t.nodes.map record) (j + 1) := by
  constructor
  · intro hshares j a b ha hb hle
    have hj : j + 1 < t.count := by
      have hlt := (List.getElem?_eq_some_iff.mp hb).1
      rwa [List.length_map, length_nodes] at hlt
    obtain ⟨i, hparent⟩ := t.exists_isParentAt (Nat.succ_pos j) hj
    have hnearest := h.isNearest hparent
    obtain ⟨n, _, _, _, hn, _⟩ := hparent
    apply h.returns_of_sharesLevel hn (hshares n (List.mem_of_getElem? hn)) hnearest
    -- the record right after its parent is deeper than the one before it
    intro hfirst
    obtain rfl : j = i := Nat.succ.inj hfirst
    obtain ⟨_, a', b', ha', hb', hlt, _⟩ := hnearest
    obtain rfl : a = a' := Option.some_inj.mp (ha.symm.trans ha')
    obtain rfl : b = b' := Option.some_inj.mp (hb.symm.trans hb')
    omega
  · intro hreturns n hn
    obtain ⟨i, hi⟩ := List.getElem?_of_mem hn
    rw [h.sharesLevel_iff hi]
    intro j hnearest hj
    obtain ⟨hij, _, b, _, hb, _, hbetween⟩ := hnearest
    obtain ⟨j, rfl⟩ : ∃ j', j = j' + 1 := ⟨j - 1, by omega⟩
    have hlt : j < (t.nodes.map record).length := by
      have hlast := (List.getElem?_eq_some_iff.mp hb).1
      omega
    have ha := List.getElem?_eq_getElem hlt
    exact hreturns j _ b ha hb (hbetween j _ (by omega) (Nat.lt_succ_self j) ha)

/-- Where no record is more than one level deeper than the one before it, children stand one level below
their parent. -/
theorem IsLayered.level_child (h : t.IsLayered)
    (hsteps : ∀ j a b, (t.nodes.map record)[j]? = some a → (t.nodes.map record)[j + 1]? = some b →
      b.level ≤ a.level + 1) : ∀ n ∈ t.nodes, ∀ c ∈ n.children, c.level = n.level + 1 := by
  intro n hn c hc
  have hdeeper := h.deeper n hn c hc
  obtain ⟨i, hi⟩ := List.getElem?_of_mem hn
  have hroot : (t.nodes.map record)[i]? = some n.record := by
    rw [List.getElem?_map, hi, Option.map_some]
  cases hchildren : n.children with
  | nil =>
    rw [hchildren] at hc
    exact absurd hc List.not_mem_nil
  | cons a later =>
    -- the first child stands right after the parent, and the others no deeper
    have ha := getElem?_record_of_cons hi hchildren
    have hfirst : a.level ≤ n.level + 1 := hsteps i _ _ hroot ha
    have hordered := h.ordered n hn
    rw [hchildren, List.pairwise_cons] at hordered
    rw [hchildren, List.mem_cons] at hc
    rcases hc with rfl | hc
    · omega
    · have hle := hordered.1 c hc
      omega

end Layered

end Tree

/-! ## Siblings in the tree of a dump -/

namespace Dump

/-- The records of a dump: that of its first line, and those of the indented lines after it. -/
def allRecords (text : Text) : List Record :=
  (root? text).toList ++ recordsBelow text

end Dump

namespace Tree

open Record

/-- The tree of a dump is layered, and a walk meets its records in order. -/
theorem isLayered_of_ofDump? {text : Text} {t : Tree} (h : ofDump? text = some t) :
    t.IsLayered ∧ t.nodes.map record = Dump.allRecords text := by
  obtain ⟨root, hroot, rfl⟩ := Option.map_eq_some_iff.mp h
  have hlevel := Dump.level_root hroot
  have hbelow : ∀ r ∈ Dump.records text, root.level < r.level := by
    intro r hr
    rw [Dump.records_eq] at hr
    have hpos := (List.mem_filter.mp hr).2
    rw [decide_eq_true_eq] at hpos
    omega
  obtain ⟨hlayered, hwalk⟩ := isLayered_ofRecords hbelow
  refine ⟨hlayered, ?_⟩
  rw [hwalk, Dump.allRecords, hroot, Dump.records_eq]
  rfl

/-- In the tree of a dump later siblings stand no deeper than earlier ones. The children of a node share a
level exactly if each but the first returns to a level that is open where it stands, and all siblings do
exactly if every record that is no deeper than the one before it does. Where no record is more than one level
deeper than the one before it, children stand one level below their parent. -/
theorem siblings_share_level_iff {text : Text} {t : Tree} (h : ofDump? text = some t) :
    (∀ n ∈ t.nodes, n.children.Pairwise fun a b => b.level ≤ a.level) ∧
    (∀ i n, t.nodes[i]? = some n → (n.SharesLevel ↔ ∀ j, IsNearest (Dump.allRecords text) i j →
      j ≠ i + 1 → Returns (Dump.allRecords text) j)) ∧
    ((∀ n ∈ t.nodes, n.SharesLevel) ↔ ∀ j a b, (Dump.allRecords text)[j]? = some a →
      (Dump.allRecords text)[j + 1]? = some b → b.level ≤ a.level →
      Returns (Dump.allRecords text) (j + 1)) ∧
    ((∀ j a b, (Dump.allRecords text)[j]? = some a → (Dump.allRecords text)[j + 1]? = some b →
      b.level ≤ a.level + 1) → ∀ n ∈ t.nodes, ∀ c ∈ n.children, c.level = n.level + 1) := by
  obtain ⟨hlayered, hwalk⟩ := isLayered_of_ofDump? h
  rw [← hwalk]
  exact ⟨hlayered.ordered, fun i n hn => hlayered.sharesLevel_iff hn, hlayered.forall_sharesLevel_iff,
    hlayered.level_child⟩

/-- A dump that comes back to an open level with `D`, and with `B` to one that was skipped on the way down. -/
def skippingDump : Text :=
  utf8 "Program\n    A\n      C\n    D\n  B"

/-- The records of a dump do not all return to their level if siblings in its tree differ in level. -/
theorem siblings_share_level_iff_skippingDump :
    ofDump? skippingDump =
      some (node (utf8 "Program") 0 none [node (utf8 "A") 2 none [node (utf8 "C") 3 none []],
        node (utf8 "D") 2 none [], node (utf8 "B") 1 none []]) ∧
    ¬ ∀ j a b, (Dump.allRecords skippingDump)[j]? = some a →
      (Dump.allRecords skippingDump)[j + 1]? = some b → b.level ≤ a.level →
      Returns (Dump.allRecords skippingDump) (j + 1) := by
  have hdump : ofDump? skippingDump =
      some (node (utf8 "Program") 0 none [node (utf8 "A") 2 none [node (utf8 "C") 3 none []],
        node (utf8 "D") 2 none [], node (utf8 "B") 1 none []]) := rfl
  refine ⟨hdump, ?_⟩
  intro hreturns
  have hshares := (siblings_share_level_iff hdump).2.2.1.mpr hreturns _ (mem_nodes_self _)
  revert hshares
  decide

/-- Siblings need not share a level: in the first dump the level of `B` was skipped on the way down to `A`,
and in the second the line that would have been the parent of `C` has a malformed span. -/
theorem skippedLevel_parts_siblings :
    (∃ t, ofDump? (utf8 "Program\n    A\n  B") = some t ∧ ∃ n ∈ t.nodes, ¬ n.SharesLevel) ∧
    ∃ t, ofDump? (utf8 "Program\n  A\n    B @x\n      C\n    D") = some t ∧
      ∃ n ∈ t.nodes, ¬ n.SharesLevel := by
  refine ⟨⟨_, rfl, _, mem_nodes_self _, by decide⟩, ⟨_, rfl, ?_⟩⟩
  -- the siblings are the children of `A`, the only child of the root
  refine ⟨_, mem_nodes_of_child List.mem_cons_self (mem_nodes_self _), by decide⟩

end Tree

end SyntaxPlayground
