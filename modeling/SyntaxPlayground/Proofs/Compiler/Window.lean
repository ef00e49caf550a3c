import SyntaxPlayground.Compiler.Statistics

/-!
# The rolling window

Calls that are too old are forgotten whenever their operation is recorded or summarised, so what is
remembered depends on when that was and how often. What a summary shows does not depend on it:

* `inWindow_afterAll`: forgetting loses nothing that is in the window of a later summary;
* `window_eq_log`: a summary is one of all calls ever recorded that are in the window then, and it does not
  matter in which order these were recorded, nor what else was asked for in between.
-/

namespace SyntaxPlayground

namespace Statistics

/-! ## Uses of the statistics -/

/-- One use of the statistics. -/
inductive Use where
  | record (operation : Text) (now duration : Int) (failed : Bool)
  | summary (operation : Text) (now : Int)
  /-- All operations are summarised; the clock is read for each of them. -/
  | summaries (clock : Operation → Int)

namespace Use

/-- What the clock shows in a use. -/
def readings : Use → List Int
  | record _ now _ _ | summary _ now => [now]
  | summaries clock => Operation.all.map clock

/-- The call that is recorded in a use. -/
def call? : Use → Option CallRecord
  | record operation now duration failed => some ⟨operation, now, max duration 0, failed⟩
  | summary .. | summaries _ => none

end Use

/-- The statistics after some operations are summarised one after the other. -/
def afterSummaries (s : Statistics) (clock : Operation → Int) (ops : List Operation) : Statistics :=
  ops.foldl (fun s op => (s.summary op.name (clock op)).2) s

/-- The statistics after a use. -/
def after (s : Statistics) : Use → Statistics
  | .record operation now duration failed => s.record operation now duration failed
  | .summary operation now => (s.summary operation now).2
  | .summaries clock => s.afterSummaries clock Operation.all

/-- The statistics after some uses. -/
def afterAll (s : Statistics) (uses : List Use) : Statistics :=
  uses.foldl after s

theorem afterAll_append (s : Statistics) (uses uses' : List Use) :
    s.afterAll (uses ++ uses') = (s.afterAll uses).afterAll uses' :=
  List.foldl_append

/-- All calls that are recorded in some uses, whether they are remembered or not. -/
def log (uses : List Use) : List CallRecord :=
  uses.filterMap Use.call?

/-- The calls of an operation that are in the window at a time. -/
def inWindow (window : Int) (operation : Text) (now : Int) (calls : List CallRecord) : List CallRecord :=
  calls.filter fun c => c.operation == operation && decide (now - window ≤ c.time)

/-! ## What is forgotten -/

section

variable {s : Statistics} {operation operation' : Text} {window now t : Int} {calls calls' : List CallRecord}

theorem inWindow_append :
    inWindow window operation t (calls ++ calls') =
      inWindow window operation t calls ++ inWindow window operation t calls' :=
  List.filter_append ..

/-- The window takes the calls of an operation first and then those that are recent. -/
theorem inWindow_eq_filter (window : Int) (operation : Text) (t : Int) (calls : List CallRecord) :
    inWindow window operation t calls =
      (calls.filter (·.operation == operation)).filter fun c => decide (t - window ≤ c.time) := by
  unfold inWindow
  rw [List.filter_filter]
  apply List.filter_congr
  intro c _
  rw [Bool.and_comm]

/-- A summary looks at the calls in the window. -/
theorem callsOf_prune (s : Statistics) (operation : Text) (t : Int) :
    (s.prune operation t).callsOf operation = inWindow s.window operation t s.calls := by
  unfold callsOf prune inWindow
  rw [List.filter_filter]
  apply List.filter_congr
  intro c _
  cases h : c.operation == operation <;> simp [bne, h]

/-- Nothing is forgotten about other operations. -/
theorem callsOf_prune_of_ne (h : operation ≠ operation') :
    (s.prune operation' now).callsOf operation = s.callsOf operation := by
  unfold callsOf prune
  rw [List.filter_filter]
  apply List.filter_congr
  intro c _
  by_cases hc : c.operation = operation
  · simp [hc, h]
  · simp [hc]

/-- What is forgotten is in no later window. -/
theorem inWindow_prune (h : now ≤ t) :
    inWindow s.window operation t (s.prune operation' now).calls = inWindow s.window operation t s.calls := by
  unfold inWindow prune
  rw [List.filter_filter]
  apply List.filter_congr
  intro c _
  by_cases hrecent : t - s.window ≤ c.time
  · have hkept : now - s.window ≤ c.time := by omega
    simp [hkept]
  · simp [hrecent]

theorem inWindow_prune_of_ne (h : operation ≠ operation') :
    inWindow window operation t (s.prune operation' now).calls = inWindow window operation t s.calls := by
  have hcalls : (s.prune operation' now).calls.filter (·.operation == operation) =
      s.calls.filter (·.operation == operation) := callsOf_prune_of_ne h
  rw [inWindow_eq_filter, inWindow_eq_filter, hcalls]

theorem summary_snd (s : Statistics) (operation : Text) (t : Int) :
    (s.summary operation t).2 = s.prune operation t := by
  rfl

theorem summary_fst (s : Statistics) (operation : Text) (t : Int) :
    (s.summary operation t).1 = summarize (inWindow s.window operation t s.calls) := by
  rw [← callsOf_prune]
  rfl

theorem afterSummaries_window (clock : Operation → Int) (ops : List Operation) :
    (s.afterSummaries clock ops).window = s.window := by
  induction ops generalizing s with
  | nil => rfl
  | cons op ops ih => exact ih

theorem inWindow_afterSummaries {clock : Operation → Int} {ops : List Operation}
    (h : ∀ op ∈ ops, clock op ≤ t) :
    inWindow s.window operation t (s.afterSummaries clock ops).calls =
      inWindow s.window operation t s.calls := by
  induction ops generalizing s with
  | nil => rfl
  | cons op ops ih =>
    have hrest := ih (s := s.prune op.name (clock op)) fun op' hop' => h op' (List.mem_cons_of_mem op hop')
    rw [← inWindow_prune (h op List.mem_cons_self)]
    exact hrest

theorem after_window (u : Use) : (s.after u).window = s.window := by
  cases u with
  | record operation now duration failed => rfl
  | summary operation now => rfl
  | summaries clock => exact afterSummaries_window clock Operation.all

/-- After a use, a later window has what it would have had, and the call that was recorded. -/
theorem inWindow_after {u : Use} (h : ∀ r ∈ u.readings, r ≤ t) :
    inWindow s.window operation t (s.after u).calls =
      inWindow s.window operation t (s.calls ++ u.call?.toList) := by
  cases u with
  | record operation' now duration failed =>
    have hnow : now ≤ t := h now List.mem_cons_self
    have hcalls : (s.record operation' now duration failed).calls =
        (s.prune operation' now).calls ++ [⟨operation', now, max duration 0, failed⟩] := rfl
    rw [after, hcalls, inWindow_append, inWindow_prune hnow, ← inWindow_append]
    rfl
  | summary operation' now =>
    have hnow : now ≤ t := h now List.mem_cons_self
    rw [after, summary_snd, inWindow_prune hnow]
    exact congrArg _ (List.append_nil s.calls).symm
  | summaries clock =>
    have hclock : ∀ op ∈ Operation.all, clock op ≤ t := fun op hop => h _ (List.mem_map_of_mem hop)
    rw [after, inWindow_afterSummaries hclock]
    exact congrArg _ (List.append_nil s.calls).symm

theorem afterAll_window (uses : List Use) : (s.afterAll uses).window = s.window := by
  induction uses generalizing s with
  | nil => rfl
  | cons u uses ih => exact ih.trans (after_window u)

/-- After some uses, a later window has what it would have had, and the calls that were recorded. -/
theorem inWindow_afterAll {uses : List Use} (h : ∀ u ∈ uses, ∀ r ∈ u.readings, r ≤ t) :
    inWindow s.window operation t (s.afterAll uses).calls =
      inWindow s.window operation t (s.calls ++ log uses) := by
  induction uses generalizing s with
  | nil => exact congrArg _ (List.append_nil s.calls).symm
  | cons u uses ih =>
    have hrest := ih (s := s.after u) fun u' hu' => h u' (List.mem_cons_of_mem u hu')
    have hlog : log (u :: uses) = u.call?.toList ++ log uses := by
      unfold log
      cases hcall : u.call? with
      | none => rw [List.filterMap_cons_none hcall]; rfl
      | some c => rw [List.filterMap_cons_some hcall]; rfl
    rw [after_window, inWindow_append, inWindow_after (h u List.mem_cons_self)] at hrest
    rw [hlog, ← List.append_assoc, inWindow_append, ← hrest]
    rfl

end

/-! ## What is shown -/

section

variable {calls calls' : List CallRecord}

theorem durations_perm (calls : List CallRecord) : (durations calls).Perm (calls.map CallRecord.duration) :=
  List.mergeSort_perm _ _

theorem durations_sorted (calls : List CallRecord) : (durations calls).Pairwise (· ≤ ·) := by
  have htrans : ∀ a b c : Int, decide (a ≤ b) = true → decide (b ≤ c) = true → decide (a ≤ c) = true := by
    simp only [decide_eq_true_eq]
    omega
  have htotal : ∀ a b : Int, (decide (a ≤ b) || decide (b ≤ a)) = true := by
    simp only [Bool.or_eq_true, decide_eq_true_eq]
    omega
  have hsorted := List.pairwise_mergeSort htrans htotal (calls.map CallRecord.duration)
  simp only [decide_eq_true_eq] at hsorted
  exact hsorted

theorem durations_eq_nil_iff : durations calls = [] ↔ calls = [] := by
  rw [← List.length_eq_zero_iff, (durations_perm calls).length_eq, List.length_map,
    List.length_eq_zero_iff]

/-- The last of some numbers in order is the largest. -/
theorem le_getLast_of_sorted {l : List Int} (h : l.Pairwise (· ≤ ·)) (hne : l ≠ []) :
    ∀ n ∈ l, n ≤ l.getLast hne := by
  intro n hn
  have hsplit : l.dropLast ++ [l.getLast hne] = l := List.dropLast_concat_getLast hne
  rw [← hsplit, List.pairwise_append] at h
  rw [← hsplit] at hn
  rcases List.mem_append.mp hn with hfront | hlast
  · exact h.2.2 n hfront _ List.mem_cons_self
  · exact Int.le_of_eq (List.mem_singleton.mp hlast)

theorem summarize_count (calls : List CallRecord) : (summarize calls).count = calls.length := by
  unfold summarize
  split
  · next hnil => rw [durations_eq_nil_iff.mp hnil]; rfl
  · rfl

theorem summarize_failures (calls : List CallRecord) :
    (summarize calls).failures = calls.countP CallRecord.failed := by
  unfold summarize
  split
  · next hnil => rw [durations_eq_nil_iff.mp hnil]; rfl
  · rfl

theorem summarize_shortest (calls : List CallRecord) :
    (summarize calls).shortest = (calls.map CallRecord.duration).min?.getD 0 := by
  have hperm := durations_perm calls
  have hsorted := durations_sorted calls
  unfold summarize
  split
  · next hnil => rw [durations_eq_nil_iff.mp hnil]; rfl
  · next first rest hcons =>
    rw [hcons] at hperm hsorted
    have hmin : (calls.map CallRecord.duration).min? = some first := by
      rw [List.min?_eq_some_iff]
      refine ⟨hperm.mem_iff.mp List.mem_cons_self, ?_⟩
      intro n hn
      rcases List.mem_cons.mp (hperm.mem_iff.mpr hn) with rfl | hrest
      · exact Int.le_refl n
      · exact List.rel_of_pairwise_cons hsorted hrest
    rw [hmin]
    rfl

theorem summarize_longest (calls : List CallRecord) :
    (summarize calls).longest = (calls.map CallRecord.duration).max?.getD 0 := by
  have hperm := durations_perm calls
  have hsorted := durations_sorted calls
  unfold summarize
  split
  · next hnil => rw [durations_eq_nil_iff.mp hnil]; rfl
  · next first rest hcons =>
    rw [hcons] at hperm hsorted
    have hne : first :: rest ≠ [] := List.cons_ne_nil first rest
    have hmax : (calls.map CallRecord.duration).max? = some ((first :: rest).getLast hne) := by
      rw [List.max?_eq_some_iff]
      refine ⟨hperm.mem_iff.mp (List.getLast_mem hne), ?_⟩
      intro n hn
      exact le_getLast_of_sorted hsorted hne n (hperm.mem_iff.mpr hn)
    have hlast : (first :: rest).getLastD 0 = (first :: rest).getLast hne := by
      rw [List.getLastD_eq_getLast?, List.getLast?_eq_some_getLast hne]
      rfl
    rw [hmax]
    exact hlast

/-- The order of the calls does not show in their durations. -/
theorem durations_congr (h : calls.Perm calls') : durations calls = durations calls' := by
  have hperm : (durations calls).Perm (durations calls') :=
    (durations_perm calls).trans ((h.map CallRecord.duration).trans (durations_perm calls').symm)
  have hantisymm : ∀ a b : Int, a ∈ durations calls → b ∈ durations calls' → a ≤ b → b ≤ a → a = b := by
    intro a b _ _ hab hba
    exact Int.le_antisymm hab hba
  exact hperm.eq_of_pairwise hantisymm (durations_sorted calls) (durations_sorted calls')

theorem total_congr (h : calls.Perm calls') : total calls = total calls' := by
  unfold total
  have hsum : calls.foldr (fun c n => c.duration + n) 0 = calls'.foldr (fun c n => c.duration + n) 0 := by
    apply h.foldr_eq'
    intro c _ d _ n
    exact Int.add_left_comm d.duration c.duration n
  rw [hsum]

/-- The order of the calls does not show in a summary. -/
theorem summarize_congr (h : calls.Perm calls') : summarize calls = summarize calls' := by
  simp only [summarize, durations_congr h, h.length_eq, h.countP_eq CallRecord.failed, total_congr h]

theorem foldl_summary (clock : Operation → Int) {ops : List Operation} (hops : ops.Nodup)
    (done : List (Operation × Summary)) (s : Statistics) :
    ops.foldl (fun acc op =>
      (acc.1 ++ [(op, (acc.2.summary op.name (clock op)).1)], (acc.2.summary op.name (clock op)).2))
      (done, s) =
    (done ++ ops.map (fun op => (op, (s.summary op.name (clock op)).1)), s.afterSummaries clock ops) := by
  induction ops generalizing done s with
  | nil =>
    simp only [List.foldl_nil, List.map_nil, List.append_nil]
    rfl
  | cons op ops ih =>
    rcases List.nodup_cons.mp hops with ⟨hop, hrest⟩
    -- the other operations do not mind that the calls of this one are forgotten
    have hothers : ops.map (fun op' => (op', ((s.prune op.name (clock op)).summary op'.name (clock op')).1)) =
        ops.map fun op' => (op', (s.summary op'.name (clock op')).1) := by
      apply List.map_congr_left
      intro op' hop'
      have hne : op'.name ≠ op.name := by
        intro hname
        rw [Operation.name_injective hname] at hop'
        exact hop hop'
      have hwindow : (s.prune op.name (clock op)).window = s.window := rfl
      rw [summary_fst, summary_fst, hwindow, inWindow_prune_of_ne hne]
    have hstep := ih hrest (done ++ [(op, (s.summary op.name (clock op)).1)]) (s.prune op.name (clock op))
    rw [hothers, List.append_assoc, List.singleton_append] at hstep
    exact hstep

/-- Operations that are summarised together have the summaries that each of them has alone at its time. -/
theorem summarizeAll_eq (s : Statistics) (clock : Operation → Int) :
    s.summarizeAll clock = (Operation.all.map fun op => (op, (s.summary op.name (clock op)).1),
      s.after (.summaries clock)) :=
  foldl_summary clock Operation.nodup_all [] s

end

/-! ## The window and the log -/

/-- The calls that a summary looks at are those in its window, of all that were ever recorded. -/
theorem callsOf_prune_afterAll (maxAge : Int) {uses : List Use} {t : Int}
    (h : ∀ u ∈ uses, ∀ r ∈ u.readings, r ≤ t) (operation : Text) :
    (((empty maxAge).afterAll uses).prune operation t).callsOf operation =
      inWindow (if maxAge ≤ 0 then hour else maxAge) operation t (log uses) := by
  rw [callsOf_prune, afterAll_window, inWindow_afterAll h]
  rfl

theorem inWindow_perm {window : Int} {operation : Text} {t : Int} {calls calls' : List CallRecord}
    (h : (calls.filter (·.operation == operation)).Perm (calls'.filter (·.operation == operation))) :
    (inWindow window operation t calls).Perm (inWindow window operation t calls') := by
  rw [inWindow_eq_filter, inWindow_eq_filter]
  exact h.filter _

/-- A summary at the time `t`, before which the clock showed nothing later, shows the number of the calls, of
the failures among them, and the extreme durations of all calls of the operation ever recorded that are not
older than the window. If in another course of events the same calls of the operation were recorded, in any
order and whatever else was asked for, the summary is the same, and so are the durations in order and their
sum that it is worked out from. Summarising all operations gives each of these summaries, also when the clock
goes on meanwhile. -/
theorem window_eq_log (maxAge : Int) (uses : List Use) (operation : Text) (t : Int)
    (h : ∀ u ∈ uses, ∀ r ∈ u.readings, r ≤ t) :
    let s := (empty maxAge).afterAll uses
    let seen := inWindow (if maxAge ≤ 0 then hour else maxAge) operation t (log uses)
    ((s.summary operation t).1.count = seen.length ∧
      (s.summary operation t).1.failures = seen.countP CallRecord.failed ∧
      (s.summary operation t).1.shortest = (seen.map CallRecord.duration).min?.getD 0 ∧
      (s.summary operation t).1.longest = (seen.map CallRecord.duration).max?.getD 0) ∧
    (∀ uses', (∀ u ∈ uses', ∀ r ∈ u.readings, r ≤ t) →
      ((log uses').filter (·.operation == operation)).Perm
        ((log uses).filter (·.operation == operation)) →
      let s' := (empty maxAge).afterAll uses'
      (s'.summary operation t).1 = (s.summary operation t).1 ∧
      durations ((s'.prune operation t).callsOf operation) =
        durations ((s.prune operation t).callsOf operation) ∧
      total ((s'.prune operation t).callsOf operation) =
        total ((s.prune operation t).callsOf operation)) ∧
    s.summaries t = (Operation.all.map fun op => (op, (s.summary op.name t).1),
      s.after (.summaries fun _ => t)) ∧
    ∀ clock : Operation → Int, s.summarizeAll clock =
      (Operation.all.map fun op => (op, (s.summary op.name (clock op)).1), s.after (.summaries clock)) := by
  intro s seen
  have hseen : (s.prune operation t).callsOf operation = seen := callsOf_prune_afterAll maxAge h operation
  have hsummary : (s.summary operation t).1 = summarize seen := congrArg summarize hseen
  refine ⟨?_, ?_, summarizeAll_eq s fun _ => t, summarizeAll_eq s⟩
  · rw [hsummary]
    exact ⟨summarize_count seen, summarize_failures seen, summarize_shortest seen, summarize_longest seen⟩
  · intro uses' h' hperm s'
    have hseen' : (s'.prune operation t).callsOf operation =
        inWindow (if maxAge ≤ 0 then hour else maxAge) operation t (log uses') :=
      callsOf_prune_afterAll maxAge h' operation
    have hsame : ((s'.prune operation t).callsOf operation).Perm
        ((s.prune operation t).callsOf operation) := by
      rw [hseen, hseen']
      exact inWindow_perm hperm
    exact ⟨summarize_congr hsame, durations_congr hsame, total_congr hsame⟩

/-- Calls of two operations, between which summaries are asked for. -/
def mixedUses : List Use :=
  [.record (utf8 "parse") 0 100 false, .summary (utf8 "parse") 2, .record (utf8 "tokenize") 3 7 true,
    .record (utf8 "parse") 8 (-5) true, .record (utf8 "parse") 8 300 false, .summaries fun _ => 9]

/-- The same calls of one of them, those at one time the other way round. -/
def swappedUses : List Use :=
  [.record (utf8 "parse") 0 100 false, .record (utf8 "parse") 8 300 false,
    .record (utf8 "parse") 8 (-5) true]

/-- At the time 12 a window of 10 has two of the three calls, the failed one with no duration at all, in
whatever order they were recorded. -/
theorem window_eq_log_mixedUses :
    (∀ u ∈ mixedUses, ∀ r ∈ u.readings, r ≤ 12) ∧ (∀ u ∈ swappedUses, ∀ r ∈ u.readings, r ≤ 12) ∧
    ((log swappedUses).filter (·.operation == utf8 "parse")).Perm
      ((log mixedUses).filter (·.operation == utf8 "parse")) ∧
    (((empty 10).afterAll mixedUses).summary (utf8 "parse") 12).1.count = 2 ∧
    (((empty 10).afterAll mixedUses).summary (utf8 "parse") 12).1.failures = 1 ∧
    (((empty 10).afterAll mixedUses).summary (utf8 "parse") 12).1.shortest = 0 ∧
    (((empty 10).afterAll mixedUses).summary (utf8 "parse") 12).1.longest = 300 ∧
    (((empty 10).afterAll swappedUses).summary (utf8 "parse") 12).1 =
      (((empty 10).afterAll mixedUses).summary (utf8 "parse") 12).1 := by
  have hmixed : ∀ u ∈ mixedUses, ∀ r ∈ u.readings, r ≤ 12 := by decide
  have hswapped : ∀ u ∈ swappedUses, ∀ r ∈ u.readings, r ≤ 12 := by decide
  have hperm : ((log swappedUses).filter (·.operation == utf8 "parse")).Perm
      ((log mixedUses).filter (·.operation == utf8 "parse")) := by decide
  obtain ⟨⟨hcount, hfailures, hshortest, hlongest⟩, hsame, -, -⟩ :=
    window_eq_log 10 mixedUses (utf8 "parse") 12 hmixed
  refine ⟨hmixed, hswapped, hperm, ?_, ?_, ?_, ?_, (hsame swappedUses hswapped hperm).1⟩
  · rw [hcount]
    decide
  · rw [hfailures]
    decide
  · rw [hshortest]
    decide
  · rw [hlongest]
    decide

end Statistics

end SyntaxPlayground
