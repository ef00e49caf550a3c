import SyntaxPlayground.Proofs.Markup.Lexing

/-!
# Building nested lists

While only lists, items and text are read, the builder is in one of very few states: its tree is the
path of open elements, each with its finished children, and nothing is suspended, fostered or
foreign. `Builder.nested` is that state. This module says what each tag of a list does to it:

* an opening tag puts a new element at the innermost end of the path (`read_list`, `read_item`);
* text goes into the innermost element, without NUL (`takeText_item`);
* a closing tag makes the innermost element a finished child of the one around it
  (`read_end_list`, `read_end_item`).
-/

namespace SyntaxPlayground

/-! ## The path of open elements -/

/-- An open element and its finished children, last first. -/
structure Frame where
  element : OpenElement
  done : List Sketch

namespace Frame

/-- The element with the given children. -/
def withChildren (f : Frame) (children : List Sketch) : Sketch :=
  .element f.element.number f.element.space f.element.tag f.element.attrs children

/-- The element with the children that are finished. -/
def sketch (f : Frame) : Sketch :=
  f.withChildren f.done

/-- The element with one more finished child. -/
def add (f : Frame) (s : Sketch) : Frame :=
  { f with done := s :: f.done }

/-- The whole tree: `inner` at the end of the innermost of the elements `above`. -/
def plug (inner : Sketch) : List Frame → Sketch
  | [] => inner
  | f :: above => plug (f.add inner).sketch above

/-- A change inside the innermost element is found along the path. -/
theorem change?_plug {n : Nat} {g : List Sketch → List Sketch} :
    ∀ {above : List Frame} {inner inner' : Sketch},
      (∀ f ∈ above, f.element.number ≠ n) → inner.change? n g = some inner' →
      (plug inner above).change? n g = some (plug inner' above) := by
  intro above
  induction above with
  | nil => intro inner inner' _ h; exact h
  | cons f above ih =>
    intro inner inner' hnumbers h
    have hf : f.element.number ≠ n := hnumbers f List.mem_cons_self
    apply ih fun x hx => hnumbers x (List.mem_cons_of_mem f hx)
    -- the open child stands first, so the search goes there
    simp [sketch, withChildren, add, Sketch.change?, Sketch.changeAmong?, hf, h]

end Frame

/-! ## The state of the builder -/

namespace Builder

/-- The builder inside the frame `f`, which is open inside the frames `above`. -/
def nested (f : Frame) (above : List Frame) (next deepest : Nat) : Builder where
  root := Frame.plug f.sketch above
  next := next
  stack := f.element :: above.map Frame.element
  deepest := deepest

/-- What holds of every open list: it belongs to the page, it is no paragraph, and its number was
given before `next`. -/
structure OfList (e : OpenElement) (next : Nat) : Prop where
  page : e.space = .html
  noParagraph : e.role ≠ .paragraph
  fresh : e.number < next

/-- What holds of every path of open lists, in which the innermost element is found by its number. -/
structure Nested (f : Frame) (above : List Frame) (next : Nat) : Prop where
  ofList : ∀ g ∈ f :: above, OfList g.element next
  distinct : ∀ g ∈ above, g.element.number ≠ f.element.number

/-- A token that is read once, by the rules for running content. -/
theorem read_of_readBody {b b' : Builder} {t : Token} (hpage : b.current.space = .html)
    (hmode : b.mode = .body) (htags : b.readsTags = false) (h : b.readBody t = b'.done) :
    b.read t = b' := by
  have hforeign : b.isForeign t = false := by
    unfold isForeign
    simp [hpage]
  have hself : { b with readsTags := false } = b := by
    rw [← htags]
  unfold read
  rw [hself]
  simp only [readTimes, hforeign, readInMode, hmode, h, done, Bool.false_eq_true, if_false]

/-- Adding a node to the innermost element. -/
theorem nested_insert {f : Frame} {above : List Frame} {next : Nat} (h : Nested f above next)
    (deepest : Nat) (s : Sketch) :
    (nested f above next deepest).insert s =
      nested ⟨f.element, Sketch.push s f.done⟩ above next deepest := by
  have hchange : f.sketch.change? f.element.number (Sketch.push s) =
      some (Frame.sketch ⟨f.element, Sketch.push s f.done⟩) := by
    simp [Frame.sketch, Frame.withChildren, Sketch.change?]
  have hroot := Frame.change?_plug h.distinct hchange
  unfold insert
  simp only [nested, current, List.headD_cons, Bool.false_and, Bool.false_eq_true, if_false,
    Sketch.addTo, hroot, Option.getD_some]

/-- The frame of an element of the page. -/
def frame (number : Nat) (tag : Text) (attrs : Attributes) (done : List Sketch) : Frame :=
  ⟨.ofTag number .html tag attrs, done⟩

@[simp] theorem frame_element (number : Nat) (tag : Text) (attrs : Attributes)
    (done : List Sketch) : (frame number tag attrs done).element = .ofTag number .html tag attrs :=
  rfl

/-- Opening an element puts it at the innermost end of the path. -/
theorem nested_openTag {f : Frame} {above : List Frame} {next : Nat} (h : Nested f above next)
    (deepest : Nat) (tag : Text) (attrs : Attributes) :
    (nested f above next deepest).openTag tag attrs =
      nested (frame next tag attrs []) (f :: above) (next + 1)
        (max deepest (above.length + 2)) := by
  unfold openTag openIn
  simp only
  have hnext : (nested f above next deepest).next = next := rfl
  rw [hnext, nested_insert h]
  simp [nested, frame, Frame.plug, Frame.add, Frame.sketch, Frame.withChildren, Sketch.push,
    OpenElement.ofTag]

/-- The path with a newly opened element is again one of lists. -/
theorem Nested.open {f : Frame} {above : List Frame} {next : Nat} (h : Nested f above next)
    (tag : Text) (attrs : Attributes) (htag : TagRole.ofTag tag ≠ .paragraph) :
    Nested (frame next tag attrs []) (f :: above) (next + 1) := by
  constructor
  · intro g hg
    rcases List.mem_cons.mp hg with rfl | hg
    · exact ⟨rfl, htag, Nat.lt_succ_self next⟩
    · have hold := h.ofList g hg
      exact ⟨hold.page, hold.noParagraph, Nat.lt_succ_of_lt hold.fresh⟩
  · intro g hg
    exact Nat.ne_of_lt (h.ofList g hg).fresh

/-- Finished children and numbers given meanwhile do not matter for the path. -/
theorem Nested.mono {f : Frame} {above : List Frame} {next next' : Nat} (h : Nested f above next)
    (hnext : next ≤ next') (done : List Sketch) : Nested ⟨f.element, done⟩ above next' := by
  constructor
  · intro g hg
    have hold : OfList g.element next := by
      rcases List.mem_cons.mp hg with rfl | hg
      · exact h.ofList f List.mem_cons_self
      · exact h.ofList g (List.mem_cons_of_mem f hg)
    exact ⟨hold.page, hold.noParagraph, Nat.lt_of_lt_of_le hold.fresh hnext⟩
  · exact h.distinct

/-! ## Opening tags -/

/-- A search for an element that is not open finds nothing. -/
theorem distance?_eq_none {s : Scope} {isTarget : OpenElement → Bool} :
    ∀ {es : List OpenElement}, (∀ e ∈ es, isTarget e = false) →
      s.distance? isTarget es = none := by
  intro es
  induction es with
  | nil => intro _; rfl
  | cons e es ih =>
    intro h
    have he : isTarget e = false := h e List.mem_cons_self
    have hrest := ih fun x hx => h x (List.mem_cons_of_mem e hx)
    simp [Scope.distance?, he, hrest]

/-- No paragraph is open, so none is closed. -/
theorem nested_closeParagraph {f : Frame} {above : List Frame} {next : Nat}
    (h : Nested f above next) (deepest : Nat) :
    (nested f above next deepest).closeParagraph = nested f above next deepest := by
  have hnone : Scope.button.distance? (fun e => e.role = .paragraph)
      (f.element :: above.map Frame.element) = none := by
    apply distance?_eq_none
    intro e he
    rw [← List.map_cons] at he
    rcases List.mem_map.mp he with ⟨g, hg, rfl⟩
    simp [(h.ofList g hg).noParagraph]
  unfold closeParagraph closeTo closeTo?
  have hstack : (nested f above next deepest).stack = f.element :: above.map Frame.element := rfl
  rw [hstack, hnone]
  rfl

/-- The tag of a list. -/
def listTag : Text := utf8 "ul"

/-- The tag of an item. -/
def itemTag : Text := utf8 "li"

theorem role_listTag : TagRole.ofTag listTag = .block := by decide +kernel

theorem role_itemTag : TagRole.ofTag itemTag = .item := by decide +kernel

theorem special_listTag : OpenElement.isSpecial .html listTag = true := by decide +kernel

theorem listTag_not_passed : listTag ∉ passedTags := by decide +kernel

/-- An opening tag of a list. -/
theorem read_list {f : Frame} {above : List Frame} {next : Nat} (h : Nested f above next)
    (deepest : Nat) (attrs : Attributes) :
    (nested f above next deepest).read (.opening listTag attrs false) =
      nested (frame next listTag attrs []) (f :: above) (next + 1)
        (max deepest (above.length + 2)) := by
  apply read_of_readBody
  · exact (h.ofList f List.mem_cons_self).page
  · rfl
  · rfl
  · simp only [readBody, openBody, role_listTag]
    rw [nested_closeParagraph h, nested_openTag h]

/-- An opening tag of an item, right inside a list: an item further out is not closed. -/
theorem read_item {number : Nat} {listAttrs : Attributes} {done : List Sketch} {above : List Frame}
    {next : Nat} (h : Nested (frame number listTag listAttrs done) above next)
    (deepest : Nat) (attrs : Attributes) :
    (nested (frame number listTag listAttrs done) above next deepest).read
        (.opening itemTag attrs false) =
      nested (frame next itemTag attrs []) ((frame number listTag listAttrs done) :: above)
        (next + 1) (max deepest (above.length + 2)) := by
  -- the list is in the way of items further out
  have hitem : ∀ es, itemDistance? .item (.ofTag number .html listTag listAttrs :: es) = none := by
    intro es
    simp [itemDistance?, OpenElement.ofTag, role_listTag, special_listTag, listTag_not_passed]
  have hclose : (nested (frame number listTag listAttrs done) above next
      deepest).closeItem .item = nested (frame number listTag listAttrs done) above next
      deepest := by
    unfold closeItem
    simp only [nested, frame_element, hitem, Option.getD_none, List.drop_zero]
  apply read_of_readBody
  · rfl
  · rfl
  · rfl
  · simp only [readBody, openBody, role_itemTag]
    rw [hclose, nested_closeParagraph h, nested_openTag h]

/-! ## Text -/

/-- What text leaves in an element: nothing if there is nothing but NUL. -/
def textSketches (t : Text) : List Sketch :=
  if (t.filter (· ≠ 0)).isEmpty then [] else [.text [t.filter (· ≠ 0)]]

/-- The text in an item, which has nothing else in it. -/
theorem read_text {number : Nat} {attrs : Attributes} {above : List Frame} {next : Nat}
    (h : Nested (frame number itemTag attrs []) above next) (deepest : Nat) (t : Text) :
    (nested (frame number itemTag attrs []) above next deepest).read (.text t) =
      nested (frame number itemTag attrs (textSketches t)) above next deepest := by
  have hrole : (nested (frame number itemTag attrs []) above next deepest).current.role = .item :=
    role_itemTag
  have hresume : (nested (frame number itemTag attrs []) above next deepest).resumeFormatting =
      nested (frame number itemTag attrs []) above next deepest := rfl
  apply read_of_readBody
  · rfl
  · rfl
  · rfl
  · have hkept : decide (TagRole.item = TagRole.preformatted) = false := by decide
    simp only [readBody, bodyText, hrole, hresume, textSketches, hkept, Bool.false_and,
      Bool.false_eq_true, if_false]
    by_cases hempty : (t.filter (· ≠ 0)).isEmpty = true
    · simp only [hempty, if_true]
    · simp only [hempty, Bool.false_eq_true, if_false, insertText, nested_insert h]
      rfl

/-- The text that the lexer has collected, when it was written for `t`. -/
theorem takeText_item {number : Nat} {attrs : Attributes} {above : List Frame} {next : Nat}
    (h : Nested (frame number itemTag attrs []) above next) (deepest : Nat) (t : Text) :
    (nested (frame number itemTag attrs []) above next deepest).takeText t.escaped.reverse =
      nested (frame number itemTag attrs (textSketches t)) above next deepest := by
  unfold takeText LexState.textToken
  by_cases ht : t.escaped = []
  · have hnil : t = [] := by
      rw [← Text.decodeReferences_escaped false t, ht]
      rfl
    subst hnil
    rfl
  · have hne : t.escaped.reverse.isEmpty = false := by simpa using ht
    simp only [hne, Bool.false_eq_true, if_false, List.foldl_cons, List.foldl_nil,
      List.reverse_reverse, Token.ofText, Text.decode_unify_escaped]
    exact read_text h deepest t

/-! ## Closing tags -/

/-- A closing tag for the innermost element makes it a finished child of the one around it. -/
theorem nested_closeTo {s : Scope} {isTarget : OpenElement → Bool} {f g : Frame}
    (hpage : f.element.space = .html) (htarget : isTarget f.element = true) (above : List Frame)
    (next deepest : Nat) :
    (nested f (g :: above) next deepest).closeTo s isTarget =
      nested (g.add f.sketch) above next deepest := by
  have hdistance : s.distance? isTarget (f.element :: (g :: above).map Frame.element) = some 1 := by
    simp [Scope.distance?, hpage, htarget]
  unfold closeTo closeTo?
  have hstack : (nested f (g :: above) next deepest).stack =
      f.element :: (g :: above).map Frame.element := rfl
  rw [hstack, hdistance]
  rfl

/-- A closing tag of a list whose items are all closed. -/
theorem read_end_list {number : Nat} {attrs : Attributes} {done : List Sketch} (g : Frame)
    (above : List Frame) (next deepest : Nat) :
    (nested (frame number listTag attrs done) (g :: above) next deepest).read
        (.closing listTag) =
      nested (g.add (frame number listTag attrs done).sketch) above next
        deepest := by
  apply read_of_readBody
  · rfl
  · rfl
  · rfl
  · simp only [readBody, closeBody, role_listTag]
    rw [nested_closeTo rfl (by simp [OpenElement.ofTag])]

/-- A closing tag of an item. -/
theorem read_end_item {number : Nat} {attrs : Attributes} {done : List Sketch} (g : Frame)
    (above : List Frame) (next deepest : Nat) :
    (nested (frame number itemTag attrs done) (g :: above) next deepest).read
        (.closing itemTag) =
      nested (g.add (frame number itemTag attrs done).sketch) above next
        deepest := by
  apply read_of_readBody
  · rfl
  · rfl
  · rfl
  · simp only [readBody, closeBody, role_itemTag]
    rw [nested_closeTo rfl (by simp [OpenElement.ofTag, role_itemTag])]

end Builder

end SyntaxPlayground
