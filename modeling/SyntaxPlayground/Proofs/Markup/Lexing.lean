import SyntaxPlayground.Markup.Reader
import SyntaxPlayground.Proofs.Markup.Escaping

/-!
# Reading tags byte by byte

`MarkupReader.Reads r s r'` says that the bytes `s` take the reader from `r` to `r'`. It composes
along the text, so what a whole tag does is put together from what its parts do:

* bytes of text, of a name and of a quoted value only collect in the lexer;
* an attribute as the writer writes it is read as that attribute, whatever its value
  (`reads_attribute`);
* a tag as the writer writes it hands the text before it, and then the tag, to the builder
  (`reads_opening`, `reads_closing`).

Reading stops with an error as soon as too many elements are open. The number of elements that were
open at once never falls, so it is enough to look at it at the end of `s`.
-/

namespace SyntaxPlayground

namespace MarkupReader

/-! ## Reading a part of a text -/

/-- The bytes `s` take the reader from `r` to `r'`, or to an error if too many elements were open at
some point on the way. -/
structure Reads (r : MarkupReader) (s : Text) (r' : MarkupReader) : Prop where
  deeper : r.builder.deepest ≤ r'.builder.deepest
  run_append : r.builder.deepest ≤ maxOpen → ∀ rest : Text,
    r.run (s ++ rest) = if maxOpen < r'.builder.deepest then .error .tooDeep else r'.run rest

namespace Reads

theorem refl (r : MarkupReader) : Reads r [] r := by
  refine ⟨Nat.le_refl _, ?_⟩
  intro hopen rest
  rw [List.nil_append, if_neg (Nat.not_lt.mpr hopen)]

theorem trans {r r' r'' : MarkupReader} {s t : Text} (h : Reads r s r') (h' : Reads r' t r'') :
    Reads r (s ++ t) r'' := by
  refine ⟨Nat.le_trans h.deeper h'.deeper, ?_⟩
  intro hopen rest
  rw [List.append_assoc, h.run_append hopen]
  by_cases hdeep : maxOpen < r'.builder.deepest
  · -- the first part fails already, and what follows is no shallower
    rw [if_pos hdeep, if_pos (Nat.lt_of_lt_of_le hdeep h'.deeper)]
  · rw [if_neg hdeep]
    exact h'.run_append (Nat.not_lt.mp hdeep) rest

/-- One byte. -/
theorem byte {r r' : MarkupReader} {b : UInt8} (hstep : r.step b = r')
    (hdeep : r.builder.deepest ≤ r'.builder.deepest) : Reads r [b] r' := by
  refine ⟨hdeep, ?_⟩
  intro _ rest
  subst hstep
  rfl

/-- A byte that finishes no token changes the lexer only. -/
theorem silent {l l' : LexState} {b : UInt8} (builder : Builder)
    (hstep : ∀ cdata, l.step cdata b = (l', [])) : Reads ⟨l, builder⟩ [b] ⟨l', builder⟩ := by
  apply byte
  · simp only [step, hstep, List.foldl_nil]
  · exact Nat.le_refl _

/-- Bytes that finish no token, when the lexer collects each of them in turn. -/
theorem collect {α : Type} (state : α → LexState) (next : UInt8 → α → α) (builder : Builder) :
    ∀ (s : Text) (a : α),
      (∀ b ∈ s, ∀ a cdata, (state a).step cdata b = (state (next b a), [])) →
      Reads ⟨state a, builder⟩ s ⟨state (s.foldl (fun a b => next b a) a), builder⟩ := by
  intro s
  induction s with
  | nil => intro a _; exact refl _
  | cons b s ih =>
    intro a hstep
    have hhead := silent builder fun cdata => hstep b List.mem_cons_self a cdata
    have htail := ih (next b a) fun c hc => hstep c (List.mem_cons_of_mem b hc)
    exact hhead.trans htail

end Reads

/-! ## Text, names and values -/

/-- Text without `<` collects. -/
theorem reads_text {s : Text} (hs : ∀ b ∈ s, b ≠ 60) (acc : Text) (builder : Builder) :
    Reads ⟨.text acc, builder⟩ s ⟨.text (s.reverse ++ acc), builder⟩ := by
  rw [← List.foldl_flip_cons_eq_append']
  apply Reads.collect LexState.text (fun b a => b :: a)
  intro b hb a cdata
  simp [LexState.step, LexState.stepText, hs b hb]

/-- The bytes that names of tags and attributes are written with: small letters and the hyphen. -/
def isNameByte (b : UInt8) : Bool :=
  (97 ≤ b && b ≤ 122) || b == 45

/-- A byte of a name is none of those that end one, and it is in lower case. -/
theorem isNameByte_spec {b : UInt8} (h : isNameByte b = true) :
    Text.isTagSpace b = false ∧ b ≠ 47 ∧ b ≠ 62 ∧ b ≠ 61 ∧ Text.lowerByte b = b := by
  have hcases : (97 ≤ b ∧ b ≤ 122) ∨ b = 45 := by
    simpa [isNameByte] using h
  rcases hcases with ⟨hlo, hhi⟩ | rfl
  · have hne : ∀ c : UInt8, c < 97 → b ≠ c := by
      rintro c hc rfl
      exact absurd hlo (UInt8.not_le.mpr hc)
    have hlower : ¬ b ≤ 90 := by
      intro hb
      exact absurd (UInt8.le_trans hlo hb) (by decide)
    refine ⟨?_, hne 47 (by decide), hne 62 (by decide), hne 61 (by decide), ?_⟩
    · simp [Text.isTagSpace, hne 32 (by decide), hne 10 (by decide), hne 13 (by decide),
        hne 9 (by decide), hne 12 (by decide)]
    · simp [Text.lowerByte, hlower]
  · decide

theorem map_lowerByte_name {s : Text} (hs : ∀ b ∈ s, isNameByte b = true) :
    s.map Text.lowerByte = s := by
  rw [List.map_congr_left fun b hb => (isNameByte_spec (hs b hb)).2.2.2.2, List.map_id']

/-- The name of a tag collects. -/
theorem reads_tagName {s : Text} (hs : ∀ b ∈ s, isNameByte b = true) (closes : Bool) (name : Text)
    (builder : Builder) :
    Reads ⟨.tagName ⟨closes, name, []⟩, builder⟩ s
      ⟨.tagName ⟨closes, s.reverse ++ name, []⟩, builder⟩ := by
  rw [← List.foldl_flip_cons_eq_append']
  apply Reads.collect (fun name => LexState.tagName ⟨closes, name, []⟩) (fun b a => b :: a)
  intro b hb a cdata
  rcases isNameByte_spec (hs b hb) with ⟨hspace, hslash, hgreater, _, _⟩
  simp [LexState.step, LexState.stepTagName, hspace, hslash, hgreater]

/-- The name of an attribute collects. -/
theorem reads_attrName {s : Text} (hs : ∀ b ∈ s, isNameByte b = true) (tag : TagDraft)
    (name : Text) (builder : Builder) :
    Reads ⟨.attrName tag name, builder⟩ s ⟨.attrName tag (s.reverse ++ name), builder⟩ := by
  rw [← List.foldl_flip_cons_eq_append']
  apply Reads.collect (LexState.attrName tag) (fun b a => b :: a)
  intro b hb a cdata
  rcases isNameByte_spec (hs b hb) with ⟨hspace, hslash, hgreater, hequals, _⟩
  simp [LexState.step, hspace, hslash, hgreater, hequals]

/-- A value between double quotes collects. -/
theorem reads_value {s : Text} (hs : ∀ b ∈ s, b ≠ 34) (tag : TagDraft) (name acc : Text)
    (builder : Builder) :
    Reads ⟨.quotedValue tag name 34 acc, builder⟩ s
      ⟨.quotedValue tag name 34 (s.reverse ++ acc), builder⟩ := by
  rw [← List.foldl_flip_cons_eq_append']
  apply Reads.collect (LexState.quotedValue tag name 34) (fun b a => b :: a)
  intro b hb a cdata
  simp [LexState.step, hs b hb]

/-! ## Attributes -/

/-- A name as the writer can write it: not empty, in small letters and hyphens. -/
def IsName (s : Text) : Prop :=
  s ≠ [] ∧ ∀ b ∈ s, isNameByte b = true

instance (s : Text) : Decidable (IsName s) :=
  inferInstanceAs (Decidable (_ ∧ _))

/-- The tag with the attributes `as` after those it has. -/
def withAttributes (tag : TagDraft) (as : Attributes) : TagDraft :=
  { tag with attrs := as.reverse ++ tag.attrs }

/-- What was written for an attribute is saved as that attribute. -/
theorem save_escaped (tag : TagDraft) {a : Attribute} (ha : IsName a.name) :
    tag.save a.name.reverse a.value.escaped.reverse = withAttributes tag [a] := by
  simp only [TagDraft.save, withAttributes, List.reverse_reverse, List.reverse_cons,
    List.reverse_nil, List.nil_append, List.cons_append]
  rw [map_lowerByte_name ha.2, Text.decode_unify_escaped]

/-- An attribute after the name of a tag or after other attributes. -/
theorem reads_attribute {l : LexState} {tag : TagDraft} {a : Attribute} (ha : IsName a.name)
    (hl : ∀ cdata, l.step cdata 32 = (.beforeAttr tag false, [])) (builder : Builder) :
    Reads ⟨l, builder⟩ a.write ⟨.beforeAttr (withAttributes tag [a]) false, builder⟩ := by
  rcases a with ⟨name, value⟩
  rcases ha with ⟨hne, hbytes⟩
  cases name with
  | nil => exact absurd rfl hne
  | cons b bs =>
    have hb := isNameByte_spec (hbytes b List.mem_cons_self)
    have hspace := Reads.silent builder hl
    have hfirst : Reads ⟨.beforeAttr tag false, builder⟩ [b] ⟨.attrName tag [b], builder⟩ := by
      apply Reads.silent
      intro cdata
      simp [LexState.step, LexState.stepBeforeAttr, hb.1, hb.2.1, hb.2.2.1]
    have hname := reads_attrName (fun c hc => hbytes c (List.mem_cons_of_mem b hc)) tag [b] builder
    rw [← List.reverse_cons] at hname
    have hequals : Reads ⟨.attrName tag (b :: bs).reverse, builder⟩ [61]
        ⟨.beforeValue tag (b :: bs).reverse, builder⟩ :=
      Reads.silent builder fun _ => rfl
    have hquote : Reads ⟨.beforeValue tag (b :: bs).reverse, builder⟩ [34]
        ⟨.quotedValue tag (b :: bs).reverse 34 [], builder⟩ :=
      Reads.silent builder fun _ => rfl
    have hvalue := reads_value (fun c hc => (Text.mem_escaped_clean hc).2.1) tag
      (b :: bs).reverse [] builder (s := value.escaped)
    have hend : Reads ⟨.quotedValue tag (b :: bs).reverse 34 (value.escaped.reverse ++ []), builder⟩
        [34] ⟨.beforeAttr (withAttributes tag [⟨b :: bs, value⟩]) false, builder⟩ := by
      apply Reads.silent
      intro cdata
      rw [List.append_nil, ← save_escaped tag ⟨hne, hbytes⟩]
      rfl
    have hall := hspace.trans (hfirst.trans (hname.trans (hequals.trans (hquote.trans
      (hvalue.trans hend)))))
    have hwrite : Attribute.write ⟨b :: bs, value⟩ =
        [32] ++ ([b] ++ (bs ++ ([61] ++ ([34] ++ (value.escaped ++ [34]))))) := by
      simp [Attribute.write, show utf8 " " = [32] from rfl, show utf8 "=\"" = [61, 34] from rfl,
        show utf8 "\"" = [34] from rfl]
    rw [hwrite]
    exact hall

/-- Attributes after the name of a tag, up to the end of the tag. -/
theorem reads_attributes {as : Attributes} (has : ∀ a ∈ as, IsName a.name) :
    ∀ {l : LexState} {tag : TagDraft}, (∀ cdata, l.step cdata 32 = (.beforeAttr tag false, [])) →
      (∀ cdata, l.step cdata 62 = (.text [], [tag.token false])) → ∀ builder : Builder,
      ∃ l', Reads ⟨l, builder⟩ (as.flatMap Attribute.write) ⟨l', builder⟩ ∧
        ∀ cdata, l'.step cdata 62 = (.text [], [(withAttributes tag as).token false]) := by
  induction as with
  | nil =>
    intro l tag _ hend builder
    exact ⟨l, Reads.refl _, hend⟩
  | cons a as ih =>
    intro l tag hl _ builder
    have hfirst := reads_attribute (has a List.mem_cons_self) hl builder
    rcases ih (fun x hx => has x (List.mem_cons_of_mem a hx)) (l := .beforeAttr _ false)
      (fun _ => rfl) (fun _ => rfl) builder with ⟨l', hrest, hend⟩
    refine ⟨l', hfirst.trans hrest, ?_⟩
    intro cdata
    rw [hend]
    simp [withAttributes]

/-! ## Tags -/

/-- A name that can begin a tag. -/
def IsTagName (s : Text) : Prop :=
  IsName s ∧ (s.head?.map Text.isLetter) = some true

instance (s : Text) : Decidable (IsTagName s) :=
  inferInstanceAs (Decidable (_ ∧ _))

end MarkupReader

namespace Markup

/-- An opening tag as it is written. -/
def openingText (tag : Text) (attrs : Attributes) : Text :=
  utf8 "<" ++ tag ++ attrs.flatMap Attribute.write ++ utf8 ">"

/-- A closing tag as it is written. -/
def closingText (tag : Text) : Text :=
  utf8 "</" ++ tag ++ utf8 ">"

end Markup

namespace Builder

/-- The builder after the text that the lexer has collected. -/
def takeText (acc : Text) (b : Builder) : Builder :=
  (LexState.textToken acc).foldl (fun b t => b.read t) b

end Builder

namespace MarkupReader

theorem foldl_accept_textToken (l : LexState) (acc : Text) (builder : Builder) :
    (LexState.textToken acc).foldl accept ⟨l, builder⟩ = ⟨l, builder.takeText acc⟩ := by
  unfold LexState.textToken Builder.takeText LexState.textToken
  by_cases hacc : acc.isEmpty = true
  · simp [hacc]
  · simp [hacc, accept, Token.ofText]

/-- An opening tag as the writer writes it: the builder gets the text before it and the tag. -/
theorem reads_opening (acc : Text) {tag : Text} {as : Attributes} (htag : IsTagName tag)
    (hraw : tag ∉ rawTags) (has : ∀ a ∈ as, IsName a.name) {builder b' : Builder}
    (hb' : (builder.takeText acc).read (.opening tag as false) = b')
    (hdeep : builder.deepest ≤ (builder.takeText acc).deepest)
    (hdeep' : (builder.takeText acc).deepest ≤ b'.deepest) :
    Reads ⟨.text acc, builder⟩ (Markup.openingText tag as) ⟨.text [], b'⟩ := by
  rcases htag with ⟨⟨hne, hbytes⟩, hletter⟩
  cases tag with
  | nil => exact absurd rfl hne
  | cons b bs =>
    have hb : Text.isLetter b = true := by simpa using hletter
    have hless : Reads ⟨.text acc, builder⟩ [60] ⟨.less acc, builder⟩ :=
      Reads.silent builder fun _ => rfl
    -- the first letter of the name ends the text before the tag
    have hfirst : Reads ⟨.less acc, builder⟩ [b]
        ⟨.tagName ⟨false, [b], []⟩, builder.takeText acc⟩ := by
      apply Reads.byte _ hdeep
      simp only [step, LexState.step, hb, if_true]
      exact foldl_accept_textToken _ acc builder
    have hname := reads_tagName (fun c hc => hbytes c (List.mem_cons_of_mem b hc)) false [b]
      (builder.takeText acc)
    rw [← List.reverse_cons] at hname
    rcases reads_attributes has (l := .tagName ⟨false, (b :: bs).reverse, []⟩) (fun _ => rfl)
      (fun _ => rfl) (builder.takeText acc) with ⟨l', hattrs, hend⟩
    have hgreater : Reads ⟨l', builder.takeText acc⟩ [62] ⟨.text [], b'⟩ := by
      apply Reads.byte _ hdeep'
      have htoken : (withAttributes ⟨false, (b :: bs).reverse, []⟩ as).token false =
          .opening (b :: bs) as false := by
        simp only [TagDraft.token, withAttributes, List.reverse_reverse, List.append_nil]
        rw [map_lowerByte_name hbytes]
        rfl
      simp only [step, hend, htoken, List.foldl_cons, List.foldl_nil, accept, hb']
      simp [LexState.afterOpening, hraw]
    have hall := hless.trans (hfirst.trans (hname.trans (hattrs.trans hgreater)))
    have hwrite : Markup.openingText (b :: bs) as =
        [60] ++ ([b] ++ (bs ++ (as.flatMap Attribute.write ++ [62]))) := by
      simp [Markup.openingText, show utf8 "<" = [60] from rfl, show utf8 ">" = [62] from rfl]
    rw [hwrite]
    exact hall

/-- A closing tag as the writer writes it: the builder gets the text before it and the tag. -/
theorem reads_closing (acc : Text) {tag : Text} (htag : IsTagName tag) {builder b' : Builder}
    (hb' : (builder.takeText acc).read (.closing tag) = b')
    (hdeep : builder.deepest ≤ (builder.takeText acc).deepest)
    (hdeep' : (builder.takeText acc).deepest ≤ b'.deepest) :
    Reads ⟨.text acc, builder⟩ (Markup.closingText tag) ⟨.text [], b'⟩ := by
  rcases htag with ⟨⟨hne, hbytes⟩, hletter⟩
  cases tag with
  | nil => exact absurd rfl hne
  | cons b bs =>
    have hb : Text.isLetter b = true := by simpa using hletter
    have hb62 : b ≠ 62 := (isNameByte_spec (hbytes b List.mem_cons_self)).2.2.1
    have hless : Reads ⟨.text acc, builder⟩ [60] ⟨.less acc, builder⟩ :=
      Reads.silent builder fun _ => rfl
    have hslash : Reads ⟨.less acc, builder⟩ [47] ⟨.lessSlash, builder.takeText acc⟩ := by
      apply Reads.byte _ hdeep
      exact foldl_accept_textToken _ acc builder
    have hfirst : Reads ⟨.lessSlash, builder.takeText acc⟩ [b]
        ⟨.tagName ⟨true, [b], []⟩, builder.takeText acc⟩ := by
      apply Reads.silent
      intro cdata
      simp [LexState.step, hb62, hb]
    have hname := reads_tagName (fun c hc => hbytes c (List.mem_cons_of_mem b hc)) true [b]
      (builder.takeText acc)
    rw [← List.reverse_cons] at hname
    have hgreater : Reads ⟨.tagName ⟨true, (b :: bs).reverse, []⟩, builder.takeText acc⟩ [62]
        ⟨.text [], b'⟩ := by
      apply Reads.byte _ hdeep'
      have htoken : (TagDraft.token ⟨true, (b :: bs).reverse, []⟩ false) = .closing (b :: bs) := by
        simp only [TagDraft.token, List.reverse_reverse, if_true]
        rw [map_lowerByte_name hbytes]
      have hstep : ∀ cdata, LexState.step cdata (.tagName ⟨true, (b :: bs).reverse, []⟩) 62 =
          (.text [], [.closing (b :: bs)]) := by
        intro cdata
        rw [← htoken]
        rfl
      simp only [step, hstep, List.foldl_cons, List.foldl_nil, accept, hb']
    have hall := hless.trans (hslash.trans (hfirst.trans (hname.trans hgreater)))
    have hwrite : Markup.closingText (b :: bs) = [60] ++ ([47] ++ ([b] ++ (bs ++ [62]))) := by
      simp [Markup.closingText, show utf8 "</" = [60, 47] from rfl, show utf8 ">" = [62] from rfl]
    rw [hwrite]
    exact hall

end MarkupReader

end SyntaxPlayground
