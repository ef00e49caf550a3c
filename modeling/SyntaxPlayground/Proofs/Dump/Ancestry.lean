import SyntaxPlayground.Proofs.Dump.Layered
import SyntaxPlayground.Proofs.Text.Cutting

/-!
# The tree of a dump

The tree of a dump is the only one that is put together from the records of the text
(`ofDump?_isBuiltFrom`). The reader keeps a path that leads up to the root through smaller and smaller
levels, `Path.IsLayered`, and `Path.trail` are the records it has met so far: adding a record keeps the one
and extends the other (`IsReady.add`, `trail_add`). Because every record stands below the root, looking
for its parent never runs off the path (`foldlM_add?`).
-/

namespace SyntaxPlayground

/-! ## The path of the reader -/

namespace OpenNode

open SyntaxPlayground.Tree

/-- The finished children are layered, stand deeper than the node, and the later ones no deeper than the
earlier ones. -/
structure IsLayered (n : OpenNode) : Prop where
  each : ∀ t ∈ n.done, t.IsLayered
  deeper : ∀ t ∈ n.done, n.record.level < t.level
  ordered : n.done.Pairwise fun a b => a.level ≤ b.level

theorem IsLayered.close {n : OpenNode} (h : n.IsLayered) : n.close.IsLayered := by
  apply isLayered_node
  · intro c hc
    exact h.each c (List.mem_reverse.mp hc)
  · intro c hc
    exact h.deeper c (List.mem_reverse.mp hc)
  · exact List.pairwise_reverse.mpr h.ordered

theorem IsLayered.adopt {n : OpenNode} (h : n.IsLayered) {t : Tree} (ht : t.IsLayered)
    (hdeeper : n.record.level < t.level) (hordered : ∀ u ∈ n.done, t.level ≤ u.level) :
    (n.adopt t).IsLayered := by
  refine ⟨?_, ?_, List.Pairwise.cons hordered h.ordered⟩
  · intro u hu
    rcases List.mem_cons.mp hu with rfl | hu
    · exact ht
    · exact h.each u hu
  · intro u hu
    rcases List.mem_cons.mp hu with rfl | hu
    · exact hdeeper
    · exact h.deeper u hu

theorem isLayered_leaf (r : Record) : IsLayered ⟨r, []⟩ :=
  ⟨fun _ ht => absurd ht List.not_mem_nil, fun _ ht => absurd ht List.not_mem_nil, List.Pairwise.nil⟩

end OpenNode

namespace Path

open SyntaxPlayground.Tree

/-- The path leads up to the root record through nodes of smaller and smaller level. Every node on it is
layered, and the one below it stands no deeper than its finished children. -/
def IsLayered (root : Record) (n : OpenNode) : List OpenNode → Prop
  | [] => n.IsLayered ∧ n.record = root
  | parent :: above => n.IsLayered ∧ parent.record.level < n.record.level ∧
      (∀ t ∈ parent.done, n.record.level ≤ t.level) ∧ IsLayered root parent above

theorem IsLayered.latest {root : Record} {n : OpenNode} {above : List OpenNode}
    (h : IsLayered root n above) : n.IsLayered := by
  cases above with
  | nil => exact h.1
  | cons parent above => exact h.1

/-- A node of the path may take another child. -/
theorem IsLayered.adopt {root : Record} {n : OpenNode} {above : List OpenNode}
    (h : IsLayered root n above) {t : Tree} (ht : (n.adopt t).IsLayered) :
    IsLayered root (n.adopt t) above := by
  cases above with
  | nil => exact ⟨ht, h.2⟩
  | cons parent above => exact ⟨ht, h.2⟩

/-- Leaving the latest node keeps the path layered. -/
theorem IsLayered.leave {root : Record} {n parent : OpenNode} {above : List OpenNode}
    (h : IsLayered root n (parent :: above)) : IsLayered root (parent.adopt n.close) above := by
  obtain ⟨hn, hdeeper, hordered, hparent⟩ := h
  exact hparent.adopt (hparent.latest.adopt hn.close hdeeper hordered)

/-- Climbing keeps the path layered, and the children that it leaves behind stand no higher than the level
it climbs to. -/
theorem IsLayered.climb {root : Record} {n : OpenNode} {above : List OpenNode}
    (h : IsLayered root n above) {level : Nat} (hdone : ∀ t ∈ n.done, level ≤ t.level) :
    IsLayered root (Path.climb level n above).latest (Path.climb level n above).above ∧
      ∀ t ∈ (Path.climb level n above).latest.done, level ≤ t.level := by
  induction above generalizing n with
  | nil => exact ⟨h, hdone⟩
  | cons parent above ih =>
    by_cases hlevel : level ≤ n.record.level
    · rw [climb_cons_of_le hlevel]
      apply ih h.leave
      intro t ht
      rcases List.mem_cons.mp ht with rfl | ht
      · exact hlevel
      · exact Nat.le_trans hlevel (h.2.2.1 t ht)
    · rw [climb_of_lt (Nat.not_le.mp hlevel)]
      exact ⟨h, hdone⟩

/-- Climbing to a level below the root ends at a node of smaller level. -/
theorem IsLayered.climb_lt {root : Record} {n : OpenNode} {above : List OpenNode}
    (h : IsLayered root n above) {level : Nat} (hroot : root.level < level) :
    (Path.climb level n above).latest.record.level < level := by
  induction above generalizing n with
  | nil =>
    have hn : n.record = root := h.2
    rw [← hn] at hroot
    exact hroot
  | cons parent above ih =>
    by_cases hlevel : level ≤ n.record.level
    · rw [climb_cons_of_le hlevel]
      exact ih h.leave
    · rw [climb_of_lt (Nat.not_le.mp hlevel)]
      exact Nat.not_le.mp hlevel

/-- What the reader keeps: a layered path whose latest node has no children yet. -/
structure IsReady (root : Record) (p : Path) : Prop where
  layered : IsLayered root p.latest p.above
  leaf : p.latest.done = []

theorem isReady_start (root : Record) : IsReady root ⟨⟨root, []⟩, []⟩ :=
  ⟨⟨OpenNode.isLayered_leaf root, rfl⟩, rfl⟩

theorem IsReady.add {root : Record} {p : Path} (h : IsReady root p) {r : Record}
    (hr : root.level < r.level) : IsReady root (p.add r) := by
  have hdone : ∀ t ∈ p.latest.done, r.level ≤ t.level := by
    intro t ht
    rw [h.leaf] at ht
    exact absurd ht List.not_mem_nil
  obtain ⟨hlayered, hbehind⟩ := h.layered.climb hdone
  exact ⟨⟨OpenNode.isLayered_leaf r, h.layered.climb_lt hr, hbehind, hlayered⟩, rfl⟩

theorem IsReady.foldl {root : Record} {p : Path} (h : IsReady root p) {rs : List Record}
    (hrs : ∀ r ∈ rs, root.level < r.level) : IsReady root (rs.foldl Path.add p) := by
  induction rs generalizing p with
  | nil => exact h
  | cons r rs ih =>
    exact ih (h.add (hrs r List.mem_cons_self)) fun x hx => hrs x (List.mem_cons_of_mem r hx)

theorem IsLayered.closeAll {root : Record} {n : OpenNode} {above : List OpenNode}
    (h : IsLayered root n above) : (Path.closeAll n above).IsLayered := by
  induction above generalizing n with
  | nil => exact h.1.close
  | cons parent above ih => exact ih h.leave

/-! ## A path that may run out -/

/-- Climbing where there need not be a node to end at: nothing if the path runs out. -/
def climb? (level : Nat) (latest : OpenNode) : List OpenNode → Option Path
  | [] => if level ≤ latest.record.level then none else some ⟨latest, []⟩
  | parent :: above =>
    if level ≤ latest.record.level then climb? level (parent.adopt latest.close) above
    else some ⟨latest, parent :: above⟩

/-- The path after one more record; nothing if it runs out on the way to the record's parent. -/
def add? (p : Path) (r : Record) : Option Path :=
  (climb? r.level p.latest p.above).map fun q => ⟨⟨r, []⟩, q.latest :: q.above⟩

theorem climb?_eq_some {level : Nat} {n : OpenNode} {above : List OpenNode}
    (h : (climb level n above).latest.record.level < level) :
    climb? level n above = some (climb level n above) := by
  induction above generalizing n with
  | nil =>
    have hn : n.record.level < level := h
    rw [climb?, if_neg (Nat.not_le.mpr hn)]
    rfl
  | cons parent above ih =>
    rw [climb?, climb]
    by_cases hlevel : level ≤ n.record.level
    · rw [climb_cons_of_le hlevel] at h
      rw [if_pos hlevel, if_pos hlevel]
      exact ih h
    · rw [if_neg hlevel, if_neg hlevel]

/-- Below the root no path runs out. -/
theorem IsReady.foldlM_add? {root : Record} {p : Path} (h : IsReady root p) {rs : List Record}
    (hrs : ∀ r ∈ rs, root.level < r.level) : rs.foldlM add? p = some (rs.foldl Path.add p) := by
  induction rs generalizing p with
  | nil => rfl
  | cons r rs ih =>
    have hr := hrs r List.mem_cons_self
    have hadd : p.add? r = some (p.add r) := by
      unfold add? Path.add
      rw [climb?_eq_some (h.layered.climb_lt hr), Option.map_some]
    rw [List.foldlM_cons, hadd, List.foldl_cons]
    exact ih (h.add hr) fun x hx => hrs x (List.mem_cons_of_mem r hx)

/-! ## The records on the path -/

/-- The records that the reader has met, in order: those of the nodes above with their finished
children, and then those of the latest node. -/
def trail (n : OpenNode) : List OpenNode → List Record
  | [] => n.close.nodes.map record
  | parent :: above => trail parent above ++ n.close.nodes.map record

theorem nodes_close_adopt (n : OpenNode) (t : Tree) :
    (n.adopt t).close.nodes.map record = n.close.nodes.map record ++ t.nodes.map record := by
  unfold OpenNode.close OpenNode.adopt
  rw [nodes_node, nodes_node, List.reverse_cons, List.flatMap_append, List.flatMap_singleton,
    List.map_cons, List.map_cons, List.map_append, List.cons_append]
  rfl

theorem trail_adopt (n : OpenNode) (t : Tree) (above : List OpenNode) :
    trail (n.adopt t) above = trail n above ++ t.nodes.map record := by
  cases above with
  | nil => exact nodes_close_adopt n t
  | cons parent above => rw [trail, trail, nodes_close_adopt, List.append_assoc]

theorem trail_climb (level : Nat) (n : OpenNode) (above : List OpenNode) :
    trail (climb level n above).latest (climb level n above).above = trail n above := by
  induction above generalizing n with
  | nil => rfl
  | cons parent above ih =>
    by_cases hlevel : level ≤ n.record.level
    · rw [climb_cons_of_le hlevel, ih, trail_adopt, trail]
    · rw [climb_of_lt (Nat.not_le.mp hlevel)]

/-- A record that is added comes after all others. -/
theorem trail_add (p : Path) (r : Record) :
    trail (p.add r).latest (p.add r).above = trail p.latest p.above ++ [r] := by
  unfold add
  rw [trail, trail_climb]
  rfl

theorem trail_foldl (p : Path) (rs : List Record) :
    trail (rs.foldl add p).latest (rs.foldl add p).above = trail p.latest p.above ++ rs := by
  induction rs generalizing p with
  | nil => rw [List.foldl_nil, List.append_nil]
  | cons r rs ih => rw [List.foldl_cons, ih, trail_add, List.append_assoc, List.singleton_append]

theorem nodes_closeAll (n : OpenNode) (above : List OpenNode) :
    (closeAll n above).nodes.map record = trail n above := by
  induction above generalizing n with
  | nil => rfl
  | cons parent above ih => rw [closeAll, ih, trail_adopt, trail]

end Path

namespace Tree

open Record

/-- Records below a root make a layered tree, and a walk meets them in order. -/
theorem isLayered_ofRecords {root : Record} {rest : List Record}
    (hrest : ∀ r ∈ rest, root.level < r.level) :
    (ofRecords root rest).IsLayered ∧ (ofRecords root rest).nodes.map record = root :: rest := by
  have hready := (Path.isReady_start root).foldl hrest
  constructor
  · exact hready.layered.closeAll
  · unfold ofRecords
    rw [Path.nodes_closeAll, Path.trail_foldl]
    rfl

end Tree

/-! ## The records of a text -/

namespace Record

theorem ofLine?_dropReturns (t : Text) : ofLine? t.dropReturns = ofLine? t := by
  unfold ofLine?
  rw [Text.dropReturns_dropReturns]

/-- The level of a record is half the indentation of its line. -/
theorem level_of_ofLine? {t : Text} {r : Record} (h : ofLine? t = some r) :
    r.level = (t.dropReturns.takeWhile (· = 32)).length / 2 := by
  unfold ofLine? at h
  simp only at h
  split at h
  · split at h
    · cases h
    · cases h
      rfl
  · split at h
    · cases h
    · obtain ⟨s, _, rfl⟩ := Option.map_eq_some_iff.mp h
      rfl

end Record

namespace Dump

/-- The first line of a text, up to the first newline and without the carriage returns at its end. -/
def headline (text : Text) : Text :=
  Text.dropReturns (text.takeWhile (· ≠ 10))

/-- The records of the lines after the first that are indented. -/
def recordsBelow (text : Text) : List Record :=
  ((text.lines.drop 1).filterMap Record.ofLine?).filter (1 ≤ ·.level)

/-- A text is its first line, or its first line, a newline, and the lines after it. -/
theorem firstLine_cases (text : Text) :
    (firstLine text = (text, []) ∧ text.takeWhile (· ≠ 10) = text ∧ text.lines = [text]) ∨
      ∃ rest, firstLine text = (text.takeWhile (· ≠ 10), rest) ∧
        text.lines = text.takeWhile (· ≠ 10) :: Text.lines rest := by
  have hpass : ∀ {t : Text}, 10 ∉ t → ∀ b ∈ t, decide (b ≠ 10) = true := by
    intro t ht b hb
    rw [decide_eq_true_eq]
    rintro rfl
    exact ht hb
  unfold firstLine
  cases hcut : text.cutByte? 10 with
  | none =>
    have hnone := Text.notMem_of_cutByte?_none hcut
    exact Or.inl ⟨rfl, List.takeWhile_eq_self_iff.mpr (hpass hnone), Text.splitByte_of_notMem hnone⟩
  | some parts =>
    obtain ⟨line, rest⟩ := parts
    obtain ⟨hline, rfl⟩ := Text.eq_of_cutByte?_some hcut
    have htake : (line ++ 10 :: rest).takeWhile (· ≠ 10) = line := by
      rw [List.takeWhile_append_of_pos (hpass hline), List.takeWhile_cons_of_neg (by decide),
        List.append_nil]
    refine Or.inr ⟨rest, ?_, ?_⟩
    · rw [htake]
      rfl
    · rw [htake]
      exact Text.splitByte_append hline rest

theorem firstLine_fst (text : Text) : (firstLine text).1.dropReturns = headline text := by
  rcases firstLine_cases text with ⟨hfirst, htake, _⟩ | ⟨rest, hfirst, _⟩
  · rw [hfirst, headline, htake]
  · rw [hfirst]
    rfl

/-- The reader takes the records of the indented lines after the first. -/
theorem records_eq (text : Text) : records text = recordsBelow text := by
  unfold records recordsBelow
  rw [List.filter_filterMap]
  rcases firstLine_cases text with ⟨hfirst, _, hlines⟩ | ⟨rest, hfirst, hlines⟩
  · rw [hfirst, hlines]
    rfl
  · rw [hfirst, hlines, List.drop_one, List.tail_cons]
    apply List.filterMap_congr
    intro line _
    rw [Record.ofLine?_dropReturns]
    cases Record.ofLine? line with
    | none => rfl
    | some r =>
      rw [Option.filter_some]
      by_cases hlevel : r.level = 0
      · simp only [hlevel, if_true]
        rfl
      · have hpos : 1 ≤ r.level := Nat.one_le_iff_ne_zero.mpr hlevel
        simp only [hlevel, if_false, hpos, decide_true, if_true]

theorem root?_eq_some_iff {text : Text} {root : Record} :
    root? text = some root ↔ rootKind <+: headline text ∧
      Record.ofLine? (headline text) = some root ∧ root.kind = rootKind := by
  unfold root?
  simp only [firstLine_fst]
  rw [← List.isPrefixOf_iff_prefix]
  constructor
  · intro h
    split at h
    · rename_i hbegins
      split at h
      · rename_i r hr
        split at h
        · rename_i hkind
          cases h
          exact ⟨hbegins, hr, hkind⟩
        · cases h
      · cases h
    · cases h
  · rintro ⟨hbegins, hr, hkind⟩
    simp only [hbegins, if_true, hr, hkind]

/-- The root record stands at level 0. -/
theorem level_root {text : Text} {root : Record} (h : root? text = some root) : root.level = 0 := by
  obtain ⟨⟨rest, hbegins⟩, hline, _⟩ := root?_eq_some_iff.mp h
  have hlevel := Record.level_of_ofLine? hline
  have hfixed : (headline text).dropReturns = headline text := Text.dropReturns_dropReturns _
  -- the line begins with a letter
  have hkind : rootKind = 80 :: rootKind.tail := by decide +kernel
  rw [hfixed, ← hbegins, hkind, List.cons_append, List.takeWhile_cons_of_neg (by decide)] at hlevel
  exact hlevel

end Dump

namespace Tree

/-- A text gives a tree if and only if its first line begins with `Program` and is the record of a
program. The tree is then the only one that is put together from this record and those of the indented
lines after it; and while it is put together there is always a node to attach the next record to. -/
theorem ofDump?_isBuiltFrom (text : Text) :
    ((∃ t, ofDump? text = some t) ↔ rootKind <+: Dump.headline text ∧
      ∃ root, Record.ofLine? (Dump.headline text) = some root ∧ root.kind = rootKind) ∧
    ∀ t, ofDump? text = some t → ∃ root, Record.ofLine? (Dump.headline text) = some root ∧
      t.level = 0 ∧
      t.IsBuiltFrom (root :: Dump.recordsBelow text) ∧
      (∀ u : Tree, u.IsBuiltFrom (root :: Dump.recordsBelow text) → u = t) ∧
      (∀ n ∈ t.nodes, ∀ c ∈ n.children, n.level < c.level) ∧
      t.count = (root :: Dump.recordsBelow text).length ∧
      ∃ p, (Dump.recordsBelow text).foldlM Path.add? ⟨⟨root, []⟩, []⟩ = some p ∧
        t = Path.closeAll p.latest p.above := by
  constructor
  · constructor
    · rintro ⟨t, ht⟩
      obtain ⟨root, hroot, _⟩ := Option.map_eq_some_iff.mp ht
      obtain ⟨hbegins, hline, hkind⟩ := Dump.root?_eq_some_iff.mp hroot
      exact ⟨hbegins, root, hline, hkind⟩
    · rintro ⟨hbegins, root, hline, hkind⟩
      have hroot := Dump.root?_eq_some_iff.mpr ⟨hbegins, hline, hkind⟩
      exact ⟨_, Option.map_eq_some_iff.mpr ⟨root, hroot, rfl⟩⟩
  · intro t ht
    obtain ⟨root, hroot, rfl⟩ := Option.map_eq_some_iff.mp ht
    have hlevel := Dump.level_root hroot
    have hbelow : ∀ r ∈ Dump.recordsBelow text, root.level < r.level := by
      intro r hr
      have hpos := (List.mem_filter.mp hr).2
      rw [decide_eq_true_eq] at hpos
      omega
    rw [Dump.records_eq]
    obtain ⟨hlayered, hwalk⟩ := isLayered_ofRecords hbelow
    have hbuilt := hlayered.isBuiltFrom hwalk
    refine ⟨root, (Dump.root?_eq_some_iff.mp hroot).2.1, ?_, hbuilt, fun u hu => hu.unique hbuilt,
      hlayered.deeper, ?_, _, (Path.isReady_start root).foldlM_add? hbelow, rfl⟩
    · have hrecord : (ofRecords root (Dump.recordsBelow text)).record = root :=
        (forall_nodes_ofRecords (P := fun _ => True) trivial fun _ _ => trivial).1
      exact (congrArg Record.level hrecord).trans hlevel
    · rw [← length_nodes, ← List.length_map record, hwalk]

-- a record may stand several levels below its parent, and above its elder sibling
example : ofDump? (utf8 "Program\n    A @0..1\n  B\n") =
    some (.node (utf8 "Program") 0 none
      [.node (utf8 "A") 2 (some ⟨0, 1⟩) [], .node (utf8 "B") 1 none []]) := by
  rfl

end Tree

end SyntaxPlayground
