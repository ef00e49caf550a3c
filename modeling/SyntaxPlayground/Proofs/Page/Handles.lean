import SyntaxPlayground.Proofs.Page.Change

/-!
# Handles

Every element in the tree pane carries a handle that leads to it, and no other handle leads anywhere
(`Document.IsNumbered`). Handles are made from a counter, so whatever markup brings along under the same
attribute is overwritten. Along any changes the counter only grows and a handle that no longer resolves
stays that way (`Document.Advances`): what one mount has given, no later one gives again.
-/

namespace SyntaxPlayground

/-! ## The attribute that holds the handle -/

namespace Attributes

theorem get?_set_self (as : Attributes) (name value : Text) :
    (as.set name value).get? name = some value := by
  induction as with
  | nil => simp [set, get?]
  | cons a as ih =>
    unfold set
    split
    · simp [get?]
    · rename_i hne
      unfold get? at ih ⊢
      rw [List.find?_cons_of_neg (by simpa using hne), ih]

theorem get?_set_of_ne {name other : Text} (h : name ≠ other) (as : Attributes) (value : Text) :
    (as.set name value).get? other = as.get? other := by
  induction as with
  | nil => simp [set, get?, h]
  | cons a as ih =>
    unfold set
    split
    · rename_i heq
      have hne : a.name ≠ other := heq ▸ h
      simp [get?, h, hne]
    · unfold get? at ih ⊢
      by_cases ha : a.name = other
      · simp [ha]
      · rw [List.find?_cons_of_neg (by simpa using ha), List.find?_cons_of_neg (by simpa using ha), ih]

theorem classAttr_ne_handle : Vocabulary.classAttr ≠ Vocabulary.handle := by decide

theorem get?_handle_addClass (as : Attributes) (c : Text) :
    (as.addClass c).get? Vocabulary.handle = as.get? Vocabulary.handle := by
  unfold addClass
  split
  · rfl
  · split <;> exact get?_set_of_ne classAttr_ne_handle as _

theorem get?_handle_removeClass (as : Attributes) (c : Text) :
    (as.removeClass c).get? Vocabulary.handle = as.get? Vocabulary.handle := by
  unfold removeClass
  split
  · rfl
  · exact get?_set_of_ne classAttr_ne_handle as _

end Attributes

namespace Document

open Markup

/-! ## Numbering -/

mutual

theorem number_snd (next : Nat) : ∀ m : Markup, (number next m).2 = next + (elements m).length
  | .element ns t as cs => by
    rw [number, elements, List.length_cons, numberAll_snd (next + 1) cs]
    omega
  | .text _ => rfl
  | .comment _ => rfl

theorem numberAll_snd (next : Nat) :
    ∀ ms : List Markup, (numberAll next ms).2 = next + (elementsAll ms).length
  | [] => rfl
  | m :: ms => by
    rw [numberAll, elementsAll, List.length_append, numberAll_snd _ ms, number_snd next m]
    omega

end

mutual

/-- The elements of a node get the next handles, in document order, whatever they carried before. -/
theorem map_handleOf?_number (next : Nat) : ∀ m : Markup,
    (elements (number next m).1).map handleOf? =
      (List.range' next (elements m).length).map (some ∘ handleText)
  | .element ns t as cs => by
    have hself : handleOf? (.element ns t (as.set Vocabulary.handle (handleText next))
        (numberAll (next + 1) cs).1) = some (handleText next) := Attributes.get?_set_self as _ _
    rw [number, elements, elements, List.map_cons, hself, map_handleOf?_numberAll (next + 1) cs,
      List.length_cons, List.range'_succ, List.map_cons]
    rfl
  | .text _ => rfl
  | .comment _ => rfl

theorem map_handleOf?_numberAll (next : Nat) : ∀ ms : List Markup,
    (elementsAll (numberAll next ms).1).map handleOf? =
      (List.range' next (elementsAll ms).length).map (some ∘ handleText)
  | [] => rfl
  | m :: ms => by
    rw [numberAll, elementsAll, elementsAll, List.map_append, map_handleOf?_number next m,
      map_handleOf?_numberAll _ ms, number_snd, List.length_append, ← List.range'_append_1,
      List.map_append]

end

/-- The handles that some content carries, read off what each element carries. -/
theorem handlesIn_eq (ms : List Markup) :
    handlesIn ms = ((elementsAll ms).map handleOf?).filterMap id := by
  unfold handlesIn
  rw [List.filterMap_map]
  rfl

theorem handlesIn_numberAll (next : Nat) (ms : List Markup) :
    handlesIn (numberAll next ms).1 =
      (List.range' next (elementsAll ms).length).map handleText := by
  rw [handlesIn_eq, map_handleOf?_numberAll, List.filterMap_map, ← List.filterMap_eq_map]
  rfl

mutual

/-- Changing attributes other than the handle leaves every handle where it is. -/
theorem map_handleOf?_updateIn (h : Handle) {f : Attributes → Attributes}
    (hf : ∀ as : Attributes, (f as).get? Vocabulary.handle = as.get? Vocabulary.handle) :
    ∀ m : Markup, (elements (updateIn h f m)).map handleOf? = (elements m).map handleOf?
  | .element ns t as cs => by
    rw [updateIn, elements, elements, List.map_cons, List.map_cons, map_handleOf?_updateInAll h hf cs]
    congr 1
    unfold handleOf?
    simp only [attrs]
    split
    · exact hf as
    · rfl
  | .text _ => rfl
  | .comment _ => rfl

theorem map_handleOf?_updateInAll (h : Handle) {f : Attributes → Attributes}
    (hf : ∀ as : Attributes, (f as).get? Vocabulary.handle = as.get? Vocabulary.handle) :
    ∀ ms : List Markup,
      (elementsAll (updateInAll h f ms)).map handleOf? = (elementsAll ms).map handleOf?
  | [] => rfl
  | m :: ms => by
    rw [updateInAll, elementsAll, elementsAll, List.map_append, List.map_append,
      map_handleOf?_updateIn h hf m, map_handleOf?_updateInAll h hf ms]

end

theorem handlesIn_updateInAll (h : Handle) {f : Attributes → Attributes}
    (hf : ∀ as : Attributes, (f as).get? Vocabulary.handle = as.get? Vocabulary.handle)
    (ms : List Markup) : handlesIn (updateInAll h f ms) = handlesIn ms := by
  rw [handlesIn_eq, map_handleOf?_updateInAll h hf, ← handlesIn_eq]

/-! ## Numbered documents -/

/-- The handles that resolve are those of the elements in the tree pane, one for each, and no element on
or off the page shares its handle, which was made from a number already given. -/
structure IsNumbered (d : Document) : Prop where
  carried : (elementsAll d.content).map handleOf? = d.handles.map some
  distinct : (handlesIn (d.content ++ d.detached)).Nodup
  given : ∀ x ∈ handlesIn (d.content ++ d.detached), ∃ i < d.nextHandle, x = handleText i

theorem isNumbered_empty : empty.IsNumbered :=
  ⟨rfl, List.nodup_nil, fun _ hx => absurd hx List.not_mem_nil⟩

variable {d d' : Document}

theorem IsNumbered.handles_eq (h : d.IsNumbered) : d.handles = handlesIn d.content := by
  rw [handlesIn_eq, h.carried, List.filterMap_map]
  exact List.filterMap_some.symm

theorem IsNumbered.given_of_mem (h : d.IsNumbered) {x : Handle} (hx : x ∈ d.handles) :
    ∃ i < d.nextHandle, x = handleText i := by
  apply h.given x
  rw [Page.mem_handlesIn_append, ← h.handles_eq]
  exact Or.inl hx

theorem IsNumbered.nodup_handles (h : d.IsNumbered) : d.handles.Nodup := by
  have hdistinct := h.distinct
  rw [Page.handlesIn_append, List.nodup_append] at hdistinct
  rw [h.handles_eq]
  exact hdistinct.1

theorem IsNumbered.handles_clear (h : d.IsNumbered) : d.clear.handles = [] :=
  Page.handles_clear_of_eq h.handles_eq

theorem handlesIn_detached_clear_perm (d : Document) :
    (handlesIn d.clear.detached).Perm (handlesIn (d.content ++ d.detached)) := by
  have hdetached : d.clear.detached = d.detached ++ d.content := rfl
  rw [hdetached, Page.handlesIn_append, Page.handlesIn_append]
  exact List.perm_append_comm

theorem IsNumbered.clear (h : d.IsNumbered) : d.clear.IsNumbered := by
  have hperm := handlesIn_detached_clear_perm d
  refine ⟨?_, ?_, ?_⟩
  · rw [h.handles_clear]
    rfl
  · exact hperm.nodup_iff.mpr h.distinct
  · intro x hx
    exact h.given x (hperm.mem_iff.mp hx)

/-! ## Mounting any markup -/

theorem filled_nextHandle (d : Document) (nodes : List Markup) :
    (d.filled nodes).nextHandle = d.nextHandle + (elementsAll nodes).length :=
  numberAll_snd d.nextHandle nodes

/-- A handle of new content has a number from the counter on. -/
theorem mem_handlesIn_numberAll {next : Nat} {nodes : List Markup} {x : Handle}
    (h : x ∈ handlesIn (numberAll next nodes).1) :
    ∃ i, next ≤ i ∧ i < next + (elementsAll nodes).length ∧ x = handleText i := by
  rw [handlesIn_numberAll] at h
  rcases List.mem_map.mp h with ⟨i, hi, rfl⟩
  have hrange := List.mem_range'_1.mp hi
  exact ⟨i, hrange.1, hrange.2, rfl⟩

/-- A number that was given before is not given again. -/
theorem handleText_notMem_numberAll {next i : Nat} (h : i < next) (nodes : List Markup) :
    handleText i ∉ handlesIn (numberAll next nodes).1 := by
  intro hmem
  rcases mem_handlesIn_numberAll hmem with ⟨j, hj, _, heq⟩
  have hij := handleText_injective heq
  omega

theorem nodup_handlesIn_numberAll (next : Nat) (nodes : List Markup) :
    (handlesIn (numberAll next nodes).1).Nodup := by
  rw [handlesIn_numberAll]
  exact nodup_map_handleText List.nodup_range'

theorem IsNumbered.handles_filled (h : d.IsNumbered) (nodes : List Markup) :
    (d.filled nodes).handles = handlesIn (numberAll d.nextHandle nodes).1 := by
  have hhandles : (d.filled nodes).handles =
      d.clear.handles ++ handlesIn (numberAll d.nextHandle nodes).1 := rfl
  rw [hhandles, h.handles_clear, List.nil_append]

theorem IsNumbered.filled (h : d.IsNumbered) (nodes : List Markup) :
    (d.filled nodes).IsNumbered := by
  have hold {x : Handle} (hx : x ∈ handlesIn d.clear.detached) :
      ∃ i < d.nextHandle, x = handleText i :=
    h.given x ((handlesIn_detached_clear_perm d).mem_iff.mp hx)
  have hall : handlesIn ((d.filled nodes).content ++ (d.filled nodes).detached) =
      handlesIn (numberAll d.nextHandle nodes).1 ++ handlesIn d.clear.detached :=
    Page.handlesIn_append _ _
  refine ⟨?_, ?_, ?_⟩
  · have hcontent : (d.filled nodes).content = (numberAll d.nextHandle nodes).1 := rfl
    rw [h.handles_filled, hcontent, map_handleOf?_numberAll, handlesIn_numberAll, List.map_map]
  · -- the new numbers are at least the counter, the old ones below it
    rw [hall, List.nodup_append]
    refine ⟨nodup_handlesIn_numberAll _ nodes, h.clear.distinct, ?_⟩
    rintro x hnew _ hx rfl
    rcases hold hx with ⟨i, hi, rfl⟩
    exact handleText_notMem_numberAll hi nodes hnew
  · intro x hx
    rw [hall] at hx
    rw [filled_nextHandle]
    rcases List.mem_append.mp hx with hnew | hx
    · rcases mem_handlesIn_numberAll hnew with ⟨i, _, hi, rfl⟩
      exact ⟨i, hi, rfl⟩
    · rcases hold hx with ⟨i, hi, rfl⟩
      exact ⟨i, by omega, rfl⟩

/-! ## Along any changes -/

/-- The second document comes later: it is numbered if the first was, its counter is no lower, and
handles that resolved no longer still do not resolve. -/
structure Advances (d d' : Document) : Prop where
  numbered : d.IsNumbered → d'.IsNumbered
  next_le : d.nextHandle ≤ d'.nextHandle
  forgotten : ∀ i < d.nextHandle, handleText i ∉ d.handles → handleText i ∉ d'.handles

theorem Advances.refl (d : Document) : Advances d d :=
  ⟨id, Nat.le_refl _, fun _ _ h => h⟩

theorem Advances.trans {a b c : Document} (hab : Advances a b) (hbc : Advances b c) :
    Advances a c := by
  refine ⟨fun h => hbc.numbered (hab.numbered h), Nat.le_trans hab.next_le hbc.next_le, ?_⟩
  intro i hi hout
  exact hbc.forgotten i (Nat.lt_of_lt_of_le hi hab.next_le) (hab.forgotten i hi hout)

theorem advances_clear (d : Document) : Advances d d.clear := by
  refine ⟨IsNumbered.clear, Nat.le_refl _, ?_⟩
  intro i _ hout hin
  exact hout (List.mem_filter.mp hin).1

theorem advances_filled (d : Document) (nodes : List Markup) : Advances d (d.filled nodes) := by
  refine ⟨fun h => h.filled nodes, ?_, ?_⟩
  · rw [filled_nextHandle]
    omega
  · intro i hi hout hin
    rcases List.mem_append.mp hin with hold | hnew
    · exact hout (List.mem_filter.mp hold).1
    · exact handleText_notMem_numberAll hi nodes hnew

theorem advances_updateAttrs (d : Document) (t : Target) {f : Attributes → Attributes}
    (hf : ∀ as : Attributes, (f as).get? Vocabulary.handle = as.get? Vocabulary.handle) :
    Advances d (d.updateAttrs t f) := by
  cases t with
  | element h =>
    refine ⟨?_, Nat.le_refl _, fun _ _ hout => hout⟩
    intro hd
    have hall : handlesIn (updateInAll h f d.content ++ updateInAll h f d.detached) =
        handlesIn (d.content ++ d.detached) := by
      rw [Page.handlesIn_append, handlesIn_updateInAll h hf, handlesIn_updateInAll h hf,
        Page.handlesIn_append]
    exact ⟨(map_handleOf?_updateInAll h hf d.content).trans hd.carried, hall ▸ hd.distinct,
      hall ▸ hd.given⟩
  | treePane => exact ⟨fun h => ⟨h.carried, h.distinct, h.given⟩, Nat.le_refl _, fun _ _ h => h⟩
  | body => exact ⟨fun h => ⟨h.carried, h.distinct, h.given⟩, Nat.le_refl _, fun _ _ h => h⟩
  | nowhere => exact .refl d

theorem Leads.advances (h : Leads d d') : Advances d d' := by
  induction h with
  | refl d => exact .refl d
  | trans _ _ hab hbc => exact hab.trans hbc
  | mount hmount =>
    rcases exists_filled_of_mount hmount with ⟨nodes, rfl⟩
    exact advances_filled _ nodes
  | clear d => exact advances_clear d
  | addClass d t c =>
    exact advances_updateAttrs d t fun as => Attributes.get?_handle_addClass as c
  | removeClass d t c =>
    exact advances_updateAttrs d t fun as => Attributes.get?_handle_removeClass as c
  | @dispatch _ document run _ ev s hrun =>
    exact dispatchWith_rel (R := fun s s' => Advances (document s) (document s'))
      (fun s => .refl (document s)) Advances.trans hrun ev s
  | setViewMode | setResult | listen | unlisten =>
    exact ⟨fun h => ⟨h.carried, h.distinct, h.given⟩, Nat.le_refl _, fun _ _ h => h⟩

/-! ## What a handle leads to -/

/-- Where no two elements share a handle, an element is found by its own. -/
theorem find?_carries {ms : List Markup} (hdistinct : (ms.filterMap handleOf?).Nodup) {m : Markup}
    (hm : m ∈ ms) {x : Handle} (hx : handleOf? m = some x) : ms.find? (carries x) = some m := by
  induction ms with
  | nil => exact absurd hm List.not_mem_nil
  | cons a ms ih =>
    by_cases ha : handleOf? a = some x
    · rw [List.find?_cons_of_pos (by simpa [carries] using ha)]
      rcases List.mem_cons.mp hm with rfl | hm
      · rfl
      · -- otherwise the handle would stand in the list twice
        rw [List.filterMap_cons, ha, List.nodup_cons] at hdistinct
        exact absurd (List.mem_filterMap.mpr ⟨m, hm, hx⟩) hdistinct.1
    · rw [List.find?_cons_of_neg (by simpa [carries] using ha)]
      rcases List.mem_cons.mp hm with rfl | hm
      · exact absurd hx ha
      · exact ih (hdistinct.sublist ((List.sublist_cons_self a ms).filterMap _)) hm

theorem resolve_of_mem {x : Handle} (h : x ∈ d.handles) : d.resolve x = .ok (.element x) := by
  unfold resolve
  rw [if_pos (List.contains_iff_mem.mpr h)]

theorem resolve_of_notMem {x : Handle} (h : x ∉ d.handles) :
    d.resolve x = .error (.unknownElement x) := by
  unfold resolve
  rw [if_neg fun hmem => h (List.contains_iff_mem.mp hmem)]

theorem exists_resolve_eq_ok_iff {x : Handle} : (∃ t, d.resolve x = .ok t) ↔ x ∈ d.handles := by
  constructor
  · rintro ⟨t, ht⟩
    apply Decidable.byContradiction
    intro hx
    rw [resolve_of_notMem hx] at ht
    cases ht
  · intro hx
    exact ⟨_, resolve_of_mem hx⟩

theorem IsNumbered.mem_handles_iff (h : d.IsNumbered) {x : Handle} :
    x ∈ d.handles ↔ ∃ m ∈ elementsAll d.content, handleOf? m = some x := by
  rw [h.handles_eq]
  exact List.mem_filterMap

/-- An element in the tree pane is what its handle leads to. -/
theorem IsNumbered.leads_to (h : d.IsNumbered) {m : Markup} (hm : m ∈ elementsAll d.content) :
    ∃ x ∈ d.handles, handleOf? m = some x ∧ d.element? x = some m := by
  have hcarried : handleOf? m ∈ d.handles.map some := by
    rw [← h.carried]
    exact List.mem_map_of_mem hm
  rcases List.mem_map.mp hcarried with ⟨x, hx, heq⟩
  have hall : m ∈ elementsAll (d.content ++ d.detached) := by
    rw [elementsAll_append]
    exact List.mem_append_left _ hm
  exact ⟨x, hx, heq.symm, find?_carries h.distinct hall heq.symm⟩

/-- Emptying or refilling the tree pane, all its handles are forgotten. -/
theorem IsNumbered.forgets (h : d.IsNumbered)
    (hreplaced : d' = d.clear ∨ ∃ markup, d.mount markup = .ok d') {i : Nat}
    (hi : i < d.nextHandle) : handleText i ∉ d'.handles := by
  rcases hreplaced with rfl | ⟨markup, hmount⟩
  · rw [h.handles_clear]
    exact List.not_mem_nil
  · rcases exists_filled_of_mount hmount with ⟨nodes, rfl⟩
    rw [h.handles_filled]
    exact handleText_notMem_numberAll hi nodes

/-- Whatever was done to a document, its handles are the values of the handle attribute of the elements
now in its tree pane, one for each, and each leads to its element. Handles that a mount gives are gone
for ever once the tree pane is emptied or filled anew. -/
theorem Leads.handles_of_elements (h : Leads empty d) :
    (elementsAll d.content).map handleOf? = d.handles.map some ∧ d.handles.Nodup ∧
    (∀ x, (∃ t, d.resolve x = .ok t) ↔ ∃ m ∈ elementsAll d.content, handleOf? m = some x) ∧
    (∀ m ∈ elementsAll d.content,
      ∃ x, handleOf? m = some x ∧ d.resolve x = .ok (.element x) ∧ d.element? x = some m) ∧
    ∀ markup mounted, d.mount markup = .ok mounted →
      ∀ before replaced after, Leads mounted before →
        (replaced = before.clear ∨ ∃ markup', before.mount markup' = .ok replaced) →
        Leads replaced after →
        ∀ x ∈ mounted.handles, x ∉ after.handles ∧ after.resolve x = .error (.unknownElement x) := by
  have hd := h.advances.numbered isNumbered_empty
  refine ⟨hd.carried, hd.nodup_handles, ?_, ?_, ?_⟩
  · intro x
    rw [exists_resolve_eq_ok_iff, hd.mem_handles_iff]
  · intro m hm
    rcases hd.leads_to hm with ⟨x, hx, hcarries, helement⟩
    exact ⟨x, hcarries, resolve_of_mem hx, helement⟩
  · intro markup mounted hmount before replaced after hbefore hreplaced hafter x hx
    have hmounted := (Leads.mount hmount).advances.numbered hd
    rcases hmounted.given_of_mem hx with ⟨i, hi, rfl⟩
    have hold : i < before.nextHandle := Nat.lt_of_lt_of_le hi hbefore.advances.next_le
    have hforgotten := (hbefore.advances.numbered hmounted).forgets hreplaced hold
    have hnext : before.nextHandle ≤ replaced.nextHandle := by
      rcases hreplaced with rfl | ⟨markup', hmount'⟩
      · exact (Leads.clear before).advances.next_le
      · exact (Leads.mount hmount').advances.next_le
    have hout := hafter.advances.forgotten i (Nat.lt_of_lt_of_le hold hnext) hforgotten
    exact ⟨hout, resolve_of_notMem hout⟩

/-- Markup that claims handles for itself: it gets the next ones all the same, and these are gone when
other markup that claims them is mounted, which has to do with the one after. -/
theorem handles_of_elements_claimed : ∃ first second,
    empty.mount (utf8 "<p data-id=n1>a<b data-id=n0></b></p>") = .ok first ∧
    first.handles = [utf8 "n0", utf8 "n1"] ∧ first.mount (utf8 "<i data-id=n0></i>") = .ok second ∧
    second.resolve (utf8 "n2") = .ok (.element (utf8 "n2")) ∧
    ∀ x ∈ first.handles, second.resolve x = .error (.unknownElement x) := by
  have hfirst : Markup.read (utf8 "<p data-id=n1>a<b data-id=n0></b></p>") =
      .ok [.element .html (utf8 "p") [⟨utf8 "data-id", utf8 "n1"⟩]
        [.text (utf8 "a"), .element .html (utf8 "b") [⟨utf8 "data-id", utf8 "n0"⟩] []]] := by
    rfl
  have hsecond : Markup.read (utf8 "<i data-id=n0></i>") =
      .ok [.element .html (utf8 "i") [⟨utf8 "data-id", utf8 "n0"⟩] []] := by
    rfl
  have hmount := mount_of_read hfirst empty
  have hmount' := mount_of_read hsecond
  refine ⟨_, _, hmount, rfl, hmount' _, ?_, ?_⟩
  · have hleads := (Leads.mount hmount).trans (.mount (hmount' _))
    have hmounted := hleads.handles_of_elements.2.2.2.1
      (.element .html (utf8 "i") [⟨utf8 "data-id", utf8 "n2"⟩] []) (List.mem_singleton.mpr rfl)
    rcases hmounted with ⟨x, hx, hresolve, _⟩
    cases hx
    exact hresolve
  · intro x hx
    have hgone := (Leads.refl empty).handles_of_elements.2.2.2.2 _ _ hmount
      _ _ _ (.refl _) (Or.inr ⟨_, hmount' _⟩) (.refl _)
    exact (hgone x hx).2

end Document

end SyntaxPlayground
