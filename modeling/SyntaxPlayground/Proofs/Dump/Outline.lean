import SyntaxPlayground.Outline
import SyntaxPlayground.Proofs.Dump.Assembly
import SyntaxPlayground.Proofs.Dump.Line

/-!
# The plain outline is a dump

Reading the plain outline of a tree gives the tree, cut at the depth limit of the outline and with
depths as levels (`ofDump?_outline`). It takes a tree that dumps can express, `Tree.IsDumpable`, and
these are the trees that dumps give (`isDumpable_of_ofDump?`). So writing out and reading again what any
dump gave changes no kind, no span and nothing about the shape.
-/

namespace SyntaxPlayground

namespace Tree

/-! ## Trees in dumps -/

/-- A tree that a dump can express: the root is a program, every kind survives trimming and holds no
`@` and no newline, and every span is in range. -/
structure IsDumpable (t : Tree) : Prop where
  root : t.kind = rootKind
  kinds : ∀ n ∈ t.nodes, n.kind.IsKind
  spans : ∀ n ∈ t.nodes, ∀ s, n.span = some s → s.InRange

theorem IsDumpable.isWritable {t : Tree} (h : t.IsDumpable) : ∀ n ∈ t.nodes, n.record.IsWritable := by
  intro n hn
  exact ⟨h.kinds n hn, h.spans n hn⟩

/-- Every tree that a dump gives can be expressed in one. -/
theorem isDumpable_of_ofDump? {text : Text} {t : Tree} (h : ofDump? text = some t) :
    t.IsDumpable := by
  rcases Option.map_eq_some_iff.mp h with ⟨root, hroot, rfl⟩
  have hfirst : 10 ∉ (Dump.firstLine text).1 := by
    unfold Dump.firstLine
    cases hcut : text.cutByte? 10 with
    | none => exact Text.notMem_of_cutByte?_none hcut
    | some parts => exact (Text.eq_of_cutByte?_some hcut).1
  -- the first line gives the root, and every other line a record or nothing
  have hrootLine : root.kind = rootKind ∧ root.IsWritable := by
    unfold Dump.root? at hroot
    simp only at hroot
    split at hroot
    · split at hroot
      · rename_i r hline
        split at hroot
        · rename_i hkind
          cases hroot
          refine ⟨hkind, Record.isWritable_of_ofLine? ?_ hline⟩
          intro hmem
          exact hfirst (Text.mem_of_mem_dropReturns hmem)
        · cases hroot
      · cases hroot
    · cases hroot
  have hrest : ∀ r ∈ Dump.records text, r.IsWritable := by
    intro r hr
    unfold Dump.records at hr
    rcases List.mem_filterMap.mp hr with ⟨line, hline, hread⟩
    split at hread
    · rename_i r' hread'
      split at hread
      · cases hread
      · cases hread
        apply Record.isWritable_of_ofLine? _ hread'
        intro hmem
        exact Text.notMem_of_mem_splitByte hline (Text.mem_of_mem_dropReturns hmem)
    · cases hread
  rcases forall_nodes_ofRecords hrootLine.2 hrest with ⟨hrecord, hnodes⟩
  constructor
  · exact (congrArg Record.kind hrecord).trans hrootLine.1
  · intro n hn
    exact (hnodes n hn).kind
  · intro n hn
    exact (hnodes n hn).span

/-! ## Cutting at a depth -/

/-- Whether nodes at a depth are kept under a limit; a limit that is not positive is none. -/
def keepsDepth (limit : Int) (depth : Nat) : Bool :=
  limit ≤ 0 || (depth : Int) < limit

mutual

/-- The tree without the nodes that the limit excludes, when its root is at the given depth. -/
def cutFrom (limit : Int) (depth : Nat) : Tree → Tree
  | node k l s cs =>
    node k l s (if keepsDepth limit (depth + 1) then cutAll limit (depth + 1) cs else [])

/-- Siblings at the given depth without the nodes below them that the limit excludes. -/
def cutAll (limit : Int) (depth : Nat) : List Tree → List Tree
  | [] => []
  | t :: ts => cutFrom limit depth t :: cutAll limit depth ts

end

/-- The tree without the nodes at depth `limit` or deeper. -/
def cut (limit : Int) (t : Tree) : Tree :=
  cutFrom limit 0 t

theorem keepsDepth_zero (limit : Int) : keepsDepth limit 0 = true := by
  unfold keepsDepth
  rw [Bool.or_eq_true, decide_eq_true_eq, decide_eq_true_eq]
  omega

/-- The record of a node at the depth where a walk meets it. -/
def recordAt (visited : Nat × Tree) : Record :=
  ⟨visited.2.kind, visited.1, visited.2.span⟩

/-- What an outline shows of a walk: the records of the nodes that the limit keeps. -/
def shownRecords (limit : Int) (visited : List (Nat × Tree)) : List Record :=
  (visited.filter fun v => keepsDepth limit v.1).map recordAt

theorem shownRecords_append (limit : Int) (visited visited' : List (Nat × Tree)) :
    shownRecords limit (visited ++ visited') =
      shownRecords limit visited ++ shownRecords limit visited' := by
  unfold shownRecords
  rw [List.filter_append, List.map_append]

/-- Siblings that the limit excludes are not shown. -/
theorem shownRecords_visitAll_of_not {limit : Int} {depth : Nat} (h : keepsDepth limit depth = false)
    (cs : List Tree) :
    shownRecords limit (visitAll (fun d _ => keepsDepth limit d) depth cs) = [] := by
  induction cs with
  | nil => rfl
  | cons c cs ih =>
    rcases c with ⟨k, l, s, cs'⟩
    rw [visitAll, shownRecords_append, ih, List.append_nil, visitFrom]
    simp [shownRecords, h]

theorem shownRecords_visitAll {limit : Int} {depth : Nat} {cs : List Tree}
    (h : ∀ c ∈ cs, shownRecords limit (visitFrom (fun d _ => keepsDepth limit d) depth c) =
      recordsFrom depth (cutFrom limit depth c)) :
    shownRecords limit (visitAll (fun d _ => keepsDepth limit d) depth cs) =
      recordsAll depth (cutAll limit depth cs) := by
  induction cs with
  | nil => rfl
  | cons c cs ih =>
    have hhead := h c List.mem_cons_self
    have htail := ih fun x hx => h x (List.mem_cons_of_mem c hx)
    rw [visitAll, shownRecords_append, hhead, htail, cutAll, recordsAll]

/-- What an outline shows of a tree that the limit keeps are the records of the tree that was cut. -/
theorem shownRecords_visitFrom (limit : Int) (t : Tree) :
    ∀ depth, keepsDepth limit depth = true →
      shownRecords limit (visitFrom (fun d _ => keepsDepth limit d) depth t) =
        recordsFrom depth (cutFrom limit depth t) := by
  induction t using induct with
  | step k l s cs ih =>
    intro depth hdepth
    have hroot : shownRecords limit (visitFrom (fun d _ => keepsDepth limit d) depth (node k l s cs)) =
        ⟨k, depth, s⟩ ::
          shownRecords limit (visitAll (fun d _ => keepsDepth limit d) (depth + 1) cs) := by
      rw [visitFrom, if_pos hdepth]
      simp [shownRecords, hdepth, recordAt, kind, span]
    rw [hroot, cutFrom, recordsFrom]
    -- the children are all shown or all left out, for they are at one depth
    cases hnext : keepsDepth limit (depth + 1) with
    | true =>
      have hchildren := shownRecords_visitAll fun c hc => ih c hc (depth + 1) hnext
      rw [hchildren, if_pos rfl]
    | false =>
      rw [shownRecords_visitAll_of_not hnext, if_neg Bool.false_ne_true]
      rfl

/-- The plain outline consists of the lines of the records of the tree that was cut. -/
theorem outline_eq {o : OutlineOptions} (ho : o.plain = true) (t : Tree) :
    t.outline o = (recordsFrom 0 (t.cut o.maxDepth)).flatMap fun r => r.line ++ [10] := by
  have hline : ∀ visited : Nat × Tree, plainLine visited.1 visited.2 = (recordAt visited).line := by
    intro visited
    rcases visited with ⟨depth, ⟨k, l, s, cs⟩⟩
    cases s <;> rfl
  have hrecords := shownRecords_visitFrom o.maxDepth t 0 (keepsDepth_zero o.maxDepth)
  unfold outline cut
  rw [← hrecords]
  unfold shownRecords
  rw [List.flatMap_map]
  simp only [ho, if_true, hline]
  rfl

/-! ## Reading an outline -/

theorem isWritable_of_mem_recordsAll {limit : Int} {depth : Nat} {cs : List Tree}
    (h : ∀ c ∈ cs, ∀ r ∈ recordsFrom depth (cutFrom limit depth c), r.IsWritable) :
    ∀ r ∈ recordsAll depth (cutAll limit depth cs), r.IsWritable := by
  intro r hr
  induction cs with
  | nil => exact absurd hr List.not_mem_nil
  | cons c cs ih =>
    rw [cutAll, recordsAll, List.mem_append] at hr
    rcases hr with hhead | htail
    · exact h c List.mem_cons_self r hhead
    · exact ih (fun x hx => h x (List.mem_cons_of_mem c hx)) htail

/-- The records of a tree that was cut come from nodes of the tree. -/
theorem isWritable_of_mem_recordsFrom (limit : Int) (t : Tree) :
    (∀ n ∈ t.nodes, n.record.IsWritable) →
      ∀ depth, ∀ r ∈ recordsFrom depth (cutFrom limit depth t), r.IsWritable := by
  induction t using induct with
  | step k l s cs ih =>
    intro hnodes depth r hr
    have hroot := hnodes (node k l s cs) (mem_nodes_self _)
    rw [cutFrom, recordsFrom, List.mem_cons] at hr
    rcases hr with rfl | hr
    · -- a record has a level of its own, but writing does not depend on it
      exact ⟨hroot.kind, hroot.span⟩
    · cases hnext : keepsDepth limit (depth + 1) with
      | true =>
        rw [hnext, if_pos rfl] at hr
        refine isWritable_of_mem_recordsAll ?_ r hr
        intro c hc
        apply ih c hc _ (depth + 1)
        intro n hn
        exact hnodes n (mem_nodes_of_child hc hn)
      | false =>
        rw [hnext, if_neg Bool.false_ne_true] at hr
        exact absurd hr List.not_mem_nil

end Tree

namespace Dump

/-- The root of a dump whose first line is that of a program. -/
theorem root?_lines {root : Record} (hroot : root.IsWritable) (hkind : root.kind = rootKind)
    (hlevel : root.level = 0) (rest : Text) : root? (root.line ++ 10 :: rest) = some root := by
  have hfirst : firstLine (root.line ++ 10 :: rest) = (root.line, rest) := by
    unfold firstLine
    rw [Text.cutByte?_append (Record.newline_notMem_line hroot)]
    rfl
  have hprefix : rootKind.isPrefixOf root.line = true := by
    have hline : root.line = root.label := by
      unfold Record.line
      rw [hlevel]
      rfl
    rw [List.isPrefixOf_iff_prefix, hline]
    unfold Record.label
    rw [hkind]
    split
    · exact List.prefix_rfl
    · rw [List.append_assoc]
      exact List.prefix_append _ _
  unfold root?
  simp only [hfirst, Record.dropReturns_line hroot, hprefix, if_true, Record.ofLine?_line hroot, hkind]

/-- The records of a dump that consists of the lines of records. -/
theorem records_lines {root : Record} (hroot : root.IsWritable) {rest : List Record}
    (hrest : ∀ r ∈ rest, r.IsWritable ∧ 1 ≤ r.level) :
    records (root.line ++ 10 :: rest.flatMap fun r => r.line ++ [10]) = rest := by
  have hfirst : firstLine (root.line ++ 10 :: rest.flatMap fun r => r.line ++ [10]) =
      (root.line, rest.flatMap fun r => r.line ++ [10]) := by
    unfold firstLine
    rw [Text.cutByte?_append (Record.newline_notMem_line hroot)]
    rfl
  have hlines : Text.lines (rest.flatMap fun r => r.line ++ [10]) =
      rest.map Record.line ++ [[]] := by
    have hsplit : (rest.map Record.line).flatMap (· ++ [10]) =
        rest.flatMap fun r => r.line ++ [10] := List.flatMap_map ..
    rw [← hsplit]
    apply Text.lines_flatMap
    intro line hline
    rcases List.mem_map.mp hline with ⟨r, hr, rfl⟩
    exact Record.newline_notMem_line (hrest r hr).1
  unfold records
  rw [hfirst, hlines, List.filterMap_append]
  have hempty : Record.ofLine? (Text.dropReturns []) = none := rfl
  simp only [List.filterMap_cons, List.filterMap_nil, hempty, List.append_nil]
  clear hfirst hlines
  induction rest with
  | nil => rfl
  | cons r rest ih =>
    rcases hrest r List.mem_cons_self with ⟨hwritable, hlevel⟩
    have hne : r.level ≠ 0 := by omega
    rw [List.map_cons, List.filterMap_cons, Record.dropReturns_line hwritable,
      Record.ofLine?_line hwritable]
    simp only [hne, if_false]
    rw [ih fun x hx => hrest x (List.mem_cons_of_mem r hx)]

end Dump

namespace Tree

/-- Reading the plain outline of a tree gives the tree, cut and with depths as levels. -/
theorem ofDump?_outline {t : Tree} (ht : t.IsDumpable) {o : OutlineOptions} (ho : o.plain = true) :
    ofDump? (t.outline o) = some ((t.cut o.maxDepth).relevel 0) := by
  have hrecords := isWritable_of_mem_recordsFrom o.maxDepth t ht.isWritable 0
  have houtline := outline_eq ho t
  have hkind := ht.root
  unfold cut at houtline ⊢
  rcases t with ⟨k, l, s, cs⟩
  generalize hcs : (if keepsDepth o.maxDepth (0 + 1) then cutAll o.maxDepth (0 + 1) cs else []) = kept
  rw [cutFrom, hcs, recordsFrom] at hrecords houtline
  rw [cutFrom, hcs]
  rw [List.flatMap_cons, List.append_assoc, List.singleton_append] at houtline
  have hroot := hrecords ⟨k, 0, s⟩ List.mem_cons_self
  -- only the root is at depth 0, so no other line is left out
  have hlevels : ∀ r ∈ recordsAll 1 kept, 1 ≤ r.level :=
    le_level_of_mem_recordsAll fun c _ => le_level_of_mem_recordsFrom c 1
  have hrest : ∀ r ∈ recordsAll 1 kept, r.IsWritable ∧ 1 ≤ r.level := by
    intro r hr
    exact ⟨hrecords r (List.mem_cons_of_mem _ hr), hlevels r hr⟩
  unfold ofDump?
  rw [houtline, Dump.root?_lines hroot hkind rfl, Dump.records_lines hroot hrest, Option.map_some,
    ofRecords_recordsAll]
  rfl

mutual

/-- Without a limit nothing is cut. -/
theorem cutFrom_of_nonpos {limit : Int} (h : limit ≤ 0) :
    ∀ (depth : Nat) (t : Tree), cutFrom limit depth t = t
  | depth, node k l s cs => by
    have hkeeps : keepsDepth limit (depth + 1) = true := by
      unfold keepsDepth
      rw [decide_eq_true h, Bool.true_or]
    rw [cutFrom, hkeeps, if_pos rfl, cutAll_of_nonpos h (depth + 1) cs]

theorem cutAll_of_nonpos {limit : Int} (h : limit ≤ 0) :
    ∀ (depth : Nat) (ts : List Tree), cutAll limit depth ts = ts
  | _, [] => rfl
  | depth, t :: ts => by
    rw [cutAll, cutFrom_of_nonpos h depth t, cutAll_of_nonpos h depth ts]

end

/-- Reading undoes the plain outline: it gives back the tree, cut at the depth limit and with depths as
levels, and since every dump gives a tree of the kind that this takes, writing out and reading again
what a dump gave keeps its shape, its kinds and its spans. -/
theorem outline_reads_back :
    (∀ (t : Tree) (o : OutlineOptions), t.IsDumpable → o.plain = true →
      ofDump? (t.outline o) = some ((t.cut o.maxDepth).relevel 0)) ∧
    (∀ (text : Text) (t : Tree), ofDump? text = some t → t.IsDumpable) ∧
    (∀ (text : Text) (t : Tree) (o : OutlineOptions), ofDump? text = some t → o.plain = true →
      o.maxDepth ≤ 0 → ofDump? (t.outline o) = some (t.relevel 0)) := by
  refine ⟨fun t o ht ho => ofDump?_outline ht ho, fun text t h => isDumpable_of_ofDump? h, ?_⟩
  intro text t o h ho hlimit
  have hread := ofDump?_outline (isDumpable_of_ofDump? h) ho
  unfold cut at hread
  rw [cutFrom_of_nonpos hlimit] at hread
  exact hread

/-- A dump with a step of four spaces, whose outline has steps of two. -/
theorem outline_reads_back_wideStep :
    ofDump? ((node (utf8 "Program") 0 none [node (utf8 "A") 2 (some ⟨0, 1⟩) []]).outline
      { plain := true }) =
        some (node (utf8 "Program") 0 none [node (utf8 "A") 1 (some ⟨0, 1⟩) []]) := by
  have hdump : ofDump? (utf8 "Program\n    A @0..1") =
      some (node (utf8 "Program") 0 none [node (utf8 "A") 2 (some ⟨0, 1⟩) []]) := rfl
  exact outline_reads_back.2.2 _ _ { plain := true } hdump rfl (Int.le_refl 0)

end Tree

end SyntaxPlayground
