import SyntaxPlayground.Proofs.Page.Handles
import SyntaxPlayground.Proofs.Text.Words

/-!
# Laws of class lists

The names in a class list are the words of the class attribute. Adding a class writes to the text of the
attribute and removing one writes it anew, so each is described twice: by what it does to the list of
names (`classNames_addClass`, `classNames_removeClass`) and by the one attribute that it sets
(`exists_addClass_eq_set`, `removeClass_of_get?`). The laws of membership follow from the first and what is
left alone from the second: `class_list_lawful`. In a document a class is added to one target or removed
from it, and no other target notices: `attrs?_addClass`, `attrs?_removeClass`.
-/

namespace SyntaxPlayground

namespace Attributes

variable {as : Attributes} {c v : Text}

/-! ## Setting one attribute -/

theorem set_set (as : Attributes) (name v w : Text) : (as.set name v).set name w = as.set name w := by
  induction as with
  | nil => simp [set]
  | cons a as ih =>
    by_cases ha : a.name = name
    · simp [set, ha]
    · simp [set, ha, ih]

theorem set_of_get? {name : Text} (h : as.get? name = some v) : as.set name v = as := by
  induction as with
  | nil => cases h
  | cons a as ih =>
    by_cases ha : a.name = name
    · rcases a with ⟨n, w⟩
      simp_all [set, get?]
    · have hrest : get? as name = some v := by
        unfold get? at h ⊢
        rwa [List.find?_cons_of_neg (by simpa using ha)] at h
      rw [set, if_neg ha, ih hrest]

/-- The attributes without the one that holds the class list, in order. -/
def besideClass (as : Attributes) : Attributes :=
  as.eraseP (·.name = Vocabulary.classAttr)

theorem besideClass_set (as : Attributes) (v : Text) :
    (as.set Vocabulary.classAttr v).besideClass = as.besideClass := by
  unfold besideClass
  induction as with
  | nil => simp [set]
  | cons a as ih =>
    by_cases ha : a.name = Vocabulary.classAttr
    · simp [set, ha]
    · simp [set, ha, ih]

/-! ## Names -/

theorem hasClass_iff : as.hasClass c = true ↔ c ∈ as.classNames :=
  List.contains_iff_mem

theorem classNames_of_get? (h : as.get? Vocabulary.classAttr = some v) : as.classNames = v.words := by
  unfold classNames classText
  rw [h, Option.getD_some]

theorem classNames_set (as : Attributes) (v : Text) :
    (as.set Vocabulary.classAttr v).classNames = v.words :=
  classNames_of_get? (get?_set_self as Vocabulary.classAttr v)

theorem isWord_of_mem_classNames (hc : c ∈ as.classNames) : c.IsWord :=
  Text.isWord_of_mem_words hc

/-! ## Adding a class -/

theorem addClass_of_hasClass (h : as.hasClass c = true) : as.addClass c = as :=
  if_pos h

/-- A class that is not there is written behind the others. -/
theorem exists_addClass_eq_set (hc : c.IsWord) (h : as.hasClass c = false) :
    ∃ v, as.addClass c = as.set Vocabulary.classAttr v ∧ v.words = as.classNames ++ [c] := by
  unfold addClass
  rw [if_neg (Bool.eq_false_iff.mp h)]
  by_cases hempty : as.classText.isEmpty = true
  · -- no attribute, or an empty one
    refine ⟨c, if_pos hempty, ?_⟩
    have hnames : as.classNames = [] := by
      rw [classNames, List.isEmpty_iff.mp hempty, Text.words_nil]
    rw [hnames, hc.words_eq, List.nil_append]
  · refine ⟨as.classText ++ utf8 " " ++ c, if_neg hempty, ?_⟩
    rw [Text.words_append_space, hc.words_eq, classNames]

theorem classNames_addClass (hc : c.IsWord) (h : as.hasClass c = false) :
    (as.addClass c).classNames = as.classNames ++ [c] := by
  rcases exists_addClass_eq_set hc h with ⟨v, heq, hwords⟩
  rw [heq, classNames_set, hwords]

theorem hasClass_addClass (hc : c.IsWord) (as : Attributes) : (as.addClass c).hasClass c = true := by
  cases h : as.hasClass c with
  | true => rw [addClass_of_hasClass h, h]
  | false =>
    rw [hasClass_iff, classNames_addClass hc h]
    exact List.mem_append_right _ List.mem_cons_self

/-- The names beside the one that is added stay as they are. -/
theorem filter_classNames_addClass (hc : c.IsWord) (as : Attributes) :
    (as.addClass c).classNames.filter (· ≠ c) = as.classNames.filter (· ≠ c) := by
  cases h : as.hasClass c with
  | true => rw [addClass_of_hasClass h]
  | false => simp [classNames_addClass hc h]

theorem besideClass_addClass (as : Attributes) (c : Text) :
    (as.addClass c).besideClass = as.besideClass := by
  unfold addClass
  split
  · rfl
  · split <;> exact besideClass_set as _

/-! ## Removing a class -/

theorem removeClass_of_get?_none (h : as.get? Vocabulary.classAttr = none) (c : Text) :
    as.removeClass c = as := by
  unfold removeClass
  rw [h]

theorem removeClass_of_get? (h : as.get? Vocabulary.classAttr = some v) (c : Text) :
    as.removeClass c =
      as.set Vocabulary.classAttr (Text.join (utf8 " ") (as.classNames.filter (· ≠ c))) := by
  unfold removeClass
  rw [h]

/-- What removing a class writes is read back as the names beside it. -/
theorem words_join_filter (as : Attributes) (c : Text) :
    (Text.join (utf8 " ") (as.classNames.filter (· ≠ c))).words = as.classNames.filter (· ≠ c) := by
  apply Text.words_join
  intro w hw
  exact isWord_of_mem_classNames (List.mem_filter.mp hw).1

theorem classNames_removeClass (as : Attributes) (c : Text) :
    (as.removeClass c).classNames = as.classNames.filter (· ≠ c) := by
  cases h : as.get? Vocabulary.classAttr with
  | none =>
    have hnames : as.classNames = [] := by
      unfold classNames classText
      rw [h]
      rfl
    rw [removeClass_of_get?_none h, hnames, List.filter_nil]
  | some v => rw [removeClass_of_get? h, classNames_set, words_join_filter]

/-- The names beside the one that is removed stay as they are. -/
theorem filter_classNames_removeClass (as : Attributes) (c : Text) :
    (as.removeClass c).classNames.filter (· ≠ c) = as.classNames.filter (· ≠ c) := by
  rw [classNames_removeClass, List.filter_filter]
  simp

theorem hasClass_removeClass (as : Attributes) (c : Text) : (as.removeClass c).hasClass c = false := by
  rw [Bool.eq_false_iff, ne_eq, hasClass_iff, classNames_removeClass]
  simp

theorem besideClass_removeClass (as : Attributes) (c : Text) :
    (as.removeClass c).besideClass = as.besideClass := by
  unfold removeClass
  split
  · rfl
  · exact besideClass_set as _

theorem removeClass_removeClass (as : Attributes) (c : Text) :
    (as.removeClass c).removeClass c = as.removeClass c := by
  cases h : as.get? Vocabulary.classAttr with
  | none => rw [removeClass_of_get?_none h, removeClass_of_get?_none h]
  | some v =>
    -- the second time the same names are written to the same attribute
    have hset := removeClass_of_get? h c
    have hget : (as.removeClass c).get? Vocabulary.classAttr =
        some (Text.join (utf8 " ") (as.classNames.filter (· ≠ c))) := by
      rw [hset, get?_set_self]
    rw [removeClass_of_get? hget, filter_classNames_removeClass, hset, set_set]

/-! ## Adding a class and removing it -/

theorem filter_classNames_of_not_hasClass (h : as.hasClass c = false) :
    as.classNames.filter (· ≠ c) = as.classNames := by
  rw [List.filter_eq_self]
  intro w hw
  rw [decide_eq_true_eq]
  rintro rfl
  rw [hasClass_iff.mpr hw] at h
  cases h

theorem classNames_removeClass_addClass (hc : c.IsWord) (h : as.hasClass c = false) :
    ((as.addClass c).removeClass c).classNames = as.classNames := by
  rw [classNames_removeClass, filter_classNames_addClass hc, filter_classNames_of_not_hasClass h]

/-- A class attribute that is spaced like those that removing a class writes comes back as it was. -/
theorem removeClass_addClass (hc : c.IsWord) (h : as.hasClass c = false)
    (hget : as.get? Vocabulary.classAttr = some v) (hv : v.IsSingleSpaced) :
    (as.addClass c).removeClass c = as := by
  rcases exists_addClass_eq_set hc h with ⟨w, heq, -⟩
  have hadded : (as.addClass c).get? Vocabulary.classAttr = some w := by
    rw [heq, get?_set_self]
  calc (as.addClass c).removeClass c
      = (as.addClass c).set Vocabulary.classAttr (Text.join (utf8 " ") as.classNames) := by
        rw [removeClass_of_get? hadded, filter_classNames_addClass hc, filter_classNames_of_not_hasClass h]
    _ = as.set Vocabulary.classAttr v := by
        rw [heq, set_set, classNames_of_get? hget, hv.join_words]
    _ = as := set_of_get? hget

/-! ## The laws -/

/-- Names that stay beside `c` stay in the class list. -/
theorem hasClass_eq_of_filter {as' : Attributes} {e : Text} (he : e ≠ c)
    (h : as'.classNames.filter (· ≠ c) = as.classNames.filter (· ≠ c)) :
    as'.hasClass e = as.hasClass e := by
  have hmem : ∀ names : List Text, e ∈ names.filter (· ≠ c) ↔ e ∈ names := by
    intro names
    simp [he]
  rw [Bool.eq_iff_iff, hasClass_iff, hasClass_iff, ← hmem, h, hmem]

/-- The laws of class lists, whatever attributes an element has and whatever its class attribute holds. A
class is there once it was added and not there once it was removed. The other classes are neither added
nor removed by this and keep their order, and the other attributes stay as they are. Adding a class that is
there changes nothing, and doing either twice is doing it once. Removing a class that was not there before
it was added gives the names as they were, and the attributes too if there was one space between each two
names. -/
theorem class_list_lawful (hc : c.IsWord) (as : Attributes) :
    ((as.addClass c).hasClass c = true ∧ (as.removeClass c).hasClass c = false) ∧
    (∀ e, e ≠ c → (as.addClass c).hasClass e = as.hasClass e ∧
      (as.removeClass c).hasClass e = as.hasClass e) ∧
    ((as.addClass c).classNames.filter (· ≠ c) = as.classNames.filter (· ≠ c) ∧
      (as.removeClass c).classNames.filter (· ≠ c) = as.classNames.filter (· ≠ c)) ∧
    ((as.addClass c).besideClass = as.besideClass ∧ (as.removeClass c).besideClass = as.besideClass) ∧
    ((as.addClass c).addClass c = as.addClass c ∧ (as.hasClass c = true → as.addClass c = as)) ∧
    (as.removeClass c).removeClass c = as.removeClass c ∧
    (as.hasClass c = false → ((as.addClass c).removeClass c).classNames = as.classNames ∧
      ∀ v, as.get? Vocabulary.classAttr = some v → v.IsSingleSpaced →
        (as.addClass c).removeClass c = as) := by
  have hadded := filter_classNames_addClass hc as
  have hremoved := filter_classNames_removeClass as c
  refine ⟨?_, ?_, ⟨hadded, hremoved⟩, ?_, ?_, removeClass_removeClass as c, ?_⟩
  · exact ⟨hasClass_addClass hc as, hasClass_removeClass as c⟩
  · intro e he
    exact ⟨hasClass_eq_of_filter he hadded, hasClass_eq_of_filter he hremoved⟩
  · exact ⟨besideClass_addClass as c, besideClass_removeClass as c⟩
  · exact ⟨addClass_of_hasClass (hasClass_addClass hc as), addClass_of_hasClass⟩
  · intro h
    refine ⟨classNames_removeClass_addClass hc h, ?_⟩
    intro v hget hv
    exact removeClass_addClass hc h hget hv

/-- Names that contain one another, one of them twice. A second class attribute does not count. -/
def lookalikes : Attributes :=
  [⟨utf8 "id", utf8 "n0"⟩, ⟨Vocabulary.classAttr, utf8 "node unlit node-lit node"⟩,
    ⟨Vocabulary.classAttr, utf8 "lit"⟩]

/-- The same name between white space of many kinds, and behind bytes that are no character. -/
def scattered : Attributes :=
  [⟨Vocabulary.classAttr, utf8 "\tlit\u00a0node \u2003 lit\n" ++ [0xE2, 0x80] ++ utf8 "\u3000lit"⟩]

/-- A name that is part of other names is not in the list, and comes and goes without a trace; the same name
is found between white space of any kind. -/
theorem class_list_lawful_lookalikes :
    (utf8 "lit").IsWord ∧ lookalikes.hasClass (utf8 "lit") = false ∧
    (lookalikes.addClass (utf8 "lit")).get? Vocabulary.classAttr =
      some (utf8 "node unlit node-lit node lit") ∧
    (lookalikes.addClass (utf8 "lit")).hasClass (utf8 "lit") = true ∧
    (utf8 "node unlit node-lit node").IsSingleSpaced ∧
    (lookalikes.addClass (utf8 "lit")).removeClass (utf8 "lit") = lookalikes ∧
    scattered.hasClass (utf8 "lit") = true ∧
    scattered.addClass (utf8 "lit") = scattered ∧
    (scattered.removeClass (utf8 "lit")).classNames = [utf8 "node", [0xE2, 0x80]] ∧
    (scattered.removeClass (utf8 "lit")).hasClass (utf8 "node") = true := by
  have hword : (utf8 "lit").IsWord := by decide +kernel
  have hout : lookalikes.hasClass (utf8 "lit") = false := by decide +kernel
  have hin : scattered.hasClass (utf8 "lit") = true := by decide +kernel
  have hspaced : (utf8 "node unlit node-lit node").IsSingleSpaced :=
    ⟨[utf8 "node", utf8 "unlit", utf8 "node-lit", utf8 "node"], by decide +kernel, by decide⟩
  rcases class_list_lawful hword lookalikes with ⟨⟨hadded, -⟩, -, -, -, -, -, hback⟩
  rcases class_list_lawful hword scattered with ⟨-, hothers, -, -, ⟨-, hstays⟩, -, -⟩
  refine ⟨hword, hout, ?_, hadded, hspaced, (hback hout).2 _ rfl hspaced, hin, hstays hin, ?_, ?_⟩
  · decide +kernel
  · decide +kernel
  · rw [(hothers (utf8 "node") (by decide)).2]
    decide +kernel

end Attributes

/-! ## Class lists in a document -/

namespace Document

open Markup

variable {f : Attributes → Attributes}

mutual

/-- A change of attributes leaves the elements of a node where they are. -/
theorem elements_updateIn (h : Handle) (f : Attributes → Attributes) :
    ∀ m : Markup, elements (updateIn h f m) = (elements m).map (updateIn h f)
  | .element ns t as cs => by
    rw [updateIn, elements, elements, List.map_cons, elementsAll_updateInAll h f cs, updateIn]
  | .text _ => rfl
  | .comment _ => rfl

theorem elementsAll_updateInAll (h : Handle) (f : Attributes → Attributes) :
    ∀ ms : List Markup, elementsAll (updateInAll h f ms) = (elementsAll ms).map (updateIn h f)
  | [] => rfl
  | m :: ms => by
    rw [updateInAll, elementsAll, elementsAll, List.map_append, elements_updateIn h f m,
      elementsAll_updateInAll h f ms]

end

theorem attrs_updateIn (h : Handle) (f : Attributes → Attributes) (m : Markup) :
    (updateIn h f m).attrs = if handleOf? m = some h then f m.attrs else m.attrs := by
  cases m <;> rfl

theorem carries_updateIn (hf : ∀ as : Attributes, (f as).get? Vocabulary.handle = as.get? Vocabulary.handle)
    (h x : Handle) (m : Markup) : carries x (updateIn h f m) = carries x m := by
  unfold carries handleOf?
  rw [attrs_updateIn]
  split
  · rw [hf]
  · rfl

/-- Changing attributes other than the handle leaves every handle with its element. -/
theorem element?_updateAttrs
    (hf : ∀ as : Attributes, (f as).get? Vocabulary.handle = as.get? Vocabulary.handle) (d : Document)
    (h x : Handle) : (d.updateAttrs (.element h) f).element? x = (d.element? x).map (updateIn h f) := by
  have hcarries : carries x ∘ updateIn h f = carries x := by
    funext m
    exact carries_updateIn hf h x m
  unfold element? updateAttrs
  rw [elementsAll_append, elementsAll_updateInAll, elementsAll_updateInAll, ← List.map_append,
    ← elementsAll_append, List.find?_map, hcarries]

/-- A change of attributes other than the handle reaches its target and no other. -/
theorem attrs?_updateAttrs
    (hf : ∀ as : Attributes, (f as).get? Vocabulary.handle = as.get? Vocabulary.handle) (d : Document)
    (t u : Target) :
    (d.updateAttrs t f).attrs? u = if u = t then (d.attrs? u).map f else d.attrs? u := by
  cases t with
  | element h =>
    cases u with
    | element x =>
      -- the element that `x` led to before is found again, with the change if `x` is the target's handle
      have hfind : (d.updateAttrs (.element h) f).element? x = (d.element? x).map (updateIn h f) :=
        element?_updateAttrs hf d h x
      rw [attrs?, attrs?, hfind]
      cases hm : d.element? x with
      | none => split <;> rfl
      | some m =>
        have hcarries : handleOf? m = some x := Tree.carries_iff.mp (List.find?_some hm)
        rw [Option.map_some, Option.map_some, Option.map_some, attrs_updateIn, hcarries]
        by_cases hx : x = h
        · rw [hx, if_pos rfl, if_pos rfl]
          rfl
        · rw [if_neg (by simpa using hx), if_neg (by simpa using hx)]
    | treePane => rfl
    | body => rfl
    | nowhere => rfl
  | treePane => cases u <;> rfl
  | body => cases u <;> rfl
  | nowhere => cases u <;> rfl

/-- A class that is added to a target is added to its attributes and to those of no other target. -/
theorem attrs?_addClass {d d' : Document} {t : Target} {c : Text} (h : d.addClass? t c = some d')
    (u : Target) : d'.attrs? u = if u = t then (d.attrs? u).map (·.addClass c) else d.attrs? u := by
  have hf := fun as : Attributes => Attributes.get?_handle_addClass as c
  cases t with
  | nowhere => cases h
  | element | treePane | body =>
    cases h
    exact attrs?_updateAttrs hf d _ u

/-- A class that is removed from a target is removed from its attributes and from those of no other. -/
theorem attrs?_removeClass (d : Document) (t u : Target) (c : Text) :
    (d.removeClass t c).attrs? u =
      if u = t then (d.attrs? u).map (·.removeClass c) else d.attrs? u :=
  attrs?_updateAttrs (fun as => Attributes.get?_handle_removeClass as c) d t u

end Document

end SyntaxPlayground
