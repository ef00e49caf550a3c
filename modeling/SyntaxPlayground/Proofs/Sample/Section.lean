import Mathlib.Data.List.SplitBy
import SyntaxPlayground.Sample

/-!
# Sections of a catalog

A catalog is read in one pass over the blocks of its document, with a sample that is open and filled on the
way. What the pass finds can be said without it: cut the document at every heading of the first or second
level; a section under a heading of the second level holds a sample if it holds code
(`Catalog.sampleOf?`), and of several samples with one name the last one counts. `ofBlocks_reads_sections`
says that the two agree for all blocks in any order. The proof goes section by section: a heading that cuts
ends the open sample, whatever it was (`Draft.step_flush`), so what a section adds depends on the section
alone (`Draft.flush_foldl_section`).
-/

namespace SyntaxPlayground

open Markdown (Block)

theorem Text.before_iff_lt {s t : Text} : s.before t = true ↔ s < t := by
  induction s generalizing t with
  | nil =>
    cases t with
    | nil => simp [before]
    | cons b t => simp [before]
  | cons a s ih =>
    cases t with
    | nil => simp [before]
    | cons b t => simp [before, List.cons_lt_cons_iff, ih]

namespace Catalog

/-! ## What a document says, section by section -/

/-- Whether a document is cut at a block: it is a heading of the first or second level. -/
def cuts : Block → Bool
  | .heading level _ => level ≤ 2
  | _ => false

/-- The sections of a document. Each but perhaps the first begins where the document is cut. -/
def sections (blocks : List Block) : List (List Block) :=
  blocks.splitBy fun _ b => !cuts b

/-- The code that a block holds, if it is fenced code and not empty. -/
def codeOf? : Block → Option Text
  | .fenced text => if text = [] then none else some text
  | _ => none

/-- What a block says, if it is a paragraph and not blank. -/
def sayingOf? : Block → Option Text
  | .paragraph text => if text.trim = [] then none else some text.trim
  | _ => none

/-- The description of a sample: what the first paragraph says that says anything before the code. -/
def descriptionOf (body : List Block) : Text :=
  ((body.takeWhile fun b => (codeOf? b).isNone).findSome? sayingOf?).getD []

/-- Whether a section stands under a heading of the second level. -/
def opensSample : List Block → Bool
  | .heading 2 _ :: _ => true
  | _ => false

/-- The sample of a section: it stands under a heading of the second level, and its source is the first
code. -/
def sampleOf? : List Block → Option Sample
  | .heading 2 title :: body =>
    (body.findSome? codeOf?).map fun source => ⟨nameOf title, descriptionOf body, source⟩
  | _ => none

/-- The sample with a name, if a catalog has one. -/
def named? (c : Catalog) (name : Text) : Option Sample :=
  c.find? (·.name = name)

/-- Adds the sample of a section to a catalog. -/
def keep (c : Catalog) (p : List Block) : Catalog :=
  match sampleOf? p with
  | some s => put s c
  | none => c

/-- Whether a block can have an effect at all: no heading of a deeper level has one. -/
def matters : Block → Bool
  | .heading level _ => level ≤ 2
  | .paragraph _ | .fenced _ => true
  | .other => false

variable {c : Catalog} {s t : Sample} {name : Text} {b : Block} {p body blocks : List Block}

/-! ## What a section holds -/

/-- What the code of a section is, empty if it holds none. -/
def sourceOf (body : List Block) : Text :=
  (body.findSome? codeOf?).getD []

theorem sourceOf_cons (b : Block) (body : List Block) :
    sourceOf (b :: body) = (codeOf? b).getD (sourceOf body) := by
  unfold sourceOf
  rw [List.findSome?_cons]
  cases codeOf? b <;> rfl

theorem descriptionOf_cons (b : Block) (body : List Block) :
    descriptionOf (b :: body) =
      if codeOf? b = none then (sayingOf? b).getD (descriptionOf body) else [] := by
  unfold descriptionOf
  rw [List.takeWhile_cons]
  cases hb : codeOf? b with
  | none =>
    show ((b :: _).findSome? sayingOf?).getD [] = _
    rw [List.findSome?_cons]
    cases sayingOf? b <;> rfl
  | some source => rfl

theorem opensSample_iff : opensSample p = true ↔ ∃ title body, p = .heading 2 title :: body := by
  constructor
  · intro h
    unfold opensSample at h
    split at h
    · exact ⟨_, _, rfl⟩
    · cases h
  · rintro ⟨title, body, rfl⟩
    rfl

theorem sampleOf?_eq_none (h : opensSample p = false) : sampleOf? p = none := by
  unfold sampleOf?
  split
  · cases h
  · rfl

theorem sampleOf?_cons (title : Text) (body : List Block) :
    sampleOf? (.heading 2 title :: body) =
      (body.findSome? codeOf?).map fun source => ⟨nameOf title, descriptionOf body, source⟩ := rfl

theorem codeOf?_eq_some_iff {b : Block} {source : Text} :
    codeOf? b = some source ↔ b = .fenced source ∧ source ≠ [] := by
  cases b with
  | fenced text =>
    by_cases ht : text = []
    · simp only [codeOf?, if_pos ht, Block.fenced.injEq]
      grind
    · simp only [codeOf?, if_neg ht, Block.fenced.injEq, Option.some.injEq]
      grind
  | heading level title => simp [codeOf?]
  | paragraph text => simp [codeOf?]
  | other => simp [codeOf?]

theorem ne_nil_of_findSome?_codeOf? {source : Text} (h : body.findSome? codeOf? = some source) :
    source ≠ [] := by
  rcases List.exists_of_findSome?_eq_some h with ⟨b, -, hb⟩
  exact (codeOf?_eq_some_iff.mp hb).2

/-- No block cuts the document. -/
def Uncut (body : List Block) : Prop :=
  ∀ b ∈ body, cuts b = false

/-- The document is cut right before the blocks and nowhere among them. -/
def IsCut (p : List Block) : Prop :=
  ∃ b body, p = b :: body ∧ cuts b = true ∧ Uncut body

/-! ## Catalogs -/

/-- The names of a catalog stand in order, so no two are the same. -/
def IsOrdered (c : Catalog) : Prop :=
  c.Pairwise fun s t => s.name < t.name

@[simp] theorem named?_nil (name : Text) : named? [] name = none := rfl

@[simp] theorem named?_cons (s : Sample) (c : Catalog) (name : Text) :
    named? (s :: c) name = if s.name = name then some s else named? c name := by
  unfold named?
  rw [List.find?_cons]
  by_cases hname : s.name = name <;> simp [hname]

theorem named?_put (s : Sample) (c : Catalog) (name : Text) :
    named? (put s c) name = if s.name = name then some s else named? c name := by
  induction c with
  | nil => rw [put, named?_cons]
  | cons t c ih =>
    rw [put]
    by_cases hsame : s.name = t.name
    · -- what was found under the name of `t` is replaced
      rw [if_pos hsame, named?_cons, named?_cons, hsame]
      by_cases ht : t.name = name
      · rw [if_pos ht, if_pos ht]
      · rw [if_neg ht, if_neg ht, if_neg ht]
    rw [if_neg hsame]
    by_cases hbefore : s.name.before t.name = true
    · rw [if_pos hbefore, named?_cons]
    · rw [if_neg hbefore, named?_cons, named?_cons, ih]
      by_cases ht : t.name = name
      · have hname : s.name ≠ name := fun hname => hsame (hname.trans ht.symm)
        rw [if_pos ht, if_neg hname, if_pos ht]
      · rw [if_neg ht, if_neg ht]

theorem mem_put (h : t ∈ put s c) : t = s ∨ t ∈ c := by
  induction c with
  | nil => exact .inl (List.mem_singleton.mp h)
  | cons u c ih =>
    rw [put] at h
    split_ifs at h <;> grind

theorem IsOrdered.put (h : IsOrdered c) (s : Sample) : IsOrdered (put s c) := by
  induction c with
  | nil => exact List.pairwise_singleton _ s
  | cons t c ih =>
    rcases List.pairwise_cons.mp h with ⟨hhead, htail⟩
    rw [Catalog.put]
    split_ifs with hsame hbefore
    · -- the new sample replaces `t`
      exact List.pairwise_cons.mpr ⟨fun u hu => hsame ▸ hhead u hu, htail⟩
    · have hlt : s.name < t.name := Text.before_iff_lt.mp hbefore
      refine List.pairwise_cons.mpr ⟨fun u hu => ?_, h⟩
      rcases List.mem_cons.mp hu with rfl | hu
      · exact hlt
      · exact List.lt_trans hlt (hhead u hu)
    · have hgt : t.name < s.name := by
        rcases Std.lt_trichotomy s.name t.name with hlt | heq | hgt
        · exact absurd (Text.before_iff_lt.mpr hlt) hbefore
        · exact absurd heq hsame
        · exact hgt
      refine List.pairwise_cons.mpr ⟨fun u hu => ?_, ih htail⟩
      rcases mem_put hu with rfl | hu
      · exact hgt
      · exact hhead u hu

theorem named?_keep (c : Catalog) (p : List Block) (name : Text) :
    named? (keep c p) name = ((sampleOf? p).filter (·.name = name)).or (named? c name) := by
  unfold keep
  cases hp : sampleOf? p with
  | none => rfl
  | some s =>
    show named? (put s c) name = _
    rw [named?_put, Option.filter_some]
    by_cases hname : s.name = name <;> simp [hname]

theorem IsOrdered.keep (h : IsOrdered c) (p : List Block) : IsOrdered (keep c p) := by
  unfold Catalog.keep
  cases hp : sampleOf? p with
  | none => exact h
  | some s => exact h.put s

/-- In an ordered catalog every sample is the one with its name. -/
theorem IsOrdered.mem_iff (h : IsOrdered c) : s ∈ c ↔ named? c s.name = some s := by
  induction c with
  | nil => simp
  | cons t c ih =>
    rcases List.pairwise_cons.mp h with ⟨hhead, htail⟩
    rw [List.mem_cons, ih htail, named?_cons]
    by_cases hname : t.name = s.name
    · -- the samples behind `t` have greater names
      have hnone : named? c s.name ≠ some s := fun hs =>
        List.lt_irrefl s.name (hname ▸ hhead s ((ih htail).mpr hs))
      simp [hname, hnone, eq_comm]
    · have hne : s ≠ t := fun hs => hname (congrArg Sample.name hs.symm)
      simp [hname, hne]

theorem isOrdered_foldl_keep (ps : List (List Block)) (h : IsOrdered c) :
    IsOrdered (ps.foldl keep c) := by
  induction ps generalizing c with
  | nil => exact h
  | cons p ps ih => exact ih (h.keep p)

/-- The last sample with a name counts. -/
theorem named?_foldl_keep (ps : List (List Block)) (name : Text) :
    named? (ps.foldl keep []) name =
      ps.reverse.findSome? fun p => (sampleOf? p).filter (·.name = name) := by
  -- from the end, where the sample of the last section hides all before it
  induction ps using List.reverseRecOn with
  | nil => rfl
  | append_singleton ps p ih =>
    rw [List.foldl_append, List.foldl_cons, List.foldl_nil, named?_keep, ih, List.reverse_append,
      List.reverse_singleton, List.singleton_append, List.findSome?_cons]
    cases (sampleOf? p).filter (·.name = name) <;> rfl

/-! ## Reading one section -/

namespace Draft

variable {d : Draft}

@[simp] theorem flush_none (c : Catalog) : flush ⟨c, none⟩ = ⟨c, none⟩ := rfl

theorem flush_some (c : Catalog) (s : Sample) :
    flush ⟨c, some s⟩ = ⟨if s.source = [] then c else put s c, none⟩ := rfl

theorem flush_eq (d : Draft) : d.flush = ⟨d.flush.catalog, none⟩ := by
  rcases d with ⟨c, current⟩
  cases current with
  | none => rfl
  | some s => rfl

@[simp] theorem flush_flush (d : Draft) : d.flush.flush = d.flush := by
  rw [flush_eq d, flush_none]

/-- A block that cuts ends the open sample, so it does not matter what was open. -/
theorem step_flush (hb : cuts b = true) : d.flush.step b = d.step b := by
  cases b with
  | heading level title =>
    have hlevel : ¬2 < level := by simpa [cuts] using hb
    simp only [step, if_neg hlevel, flush_flush]
  | paragraph text => cases hb
  | fenced text => cases hb
  | other => cases hb

/-- Where no sample is open, only a heading of the second level has an effect. -/
theorem step_idle (c : Catalog) (hb : ∀ title, b ≠ .heading 2 title) :
    step ⟨c, none⟩ b = ⟨c, none⟩ := by
  cases b with
  | heading level title =>
    have hlevel : level ≠ 2 := fun hlevel => hb title (hlevel ▸ rfl)
    by_cases hdeep : 2 < level <;> simp [step, hdeep, hlevel]
  | paragraph text => rfl
  | fenced text => rfl
  | other => rfl

theorem foldl_idle (c : Catalog) (h : Uncut body) : body.foldl step ⟨c, none⟩ = ⟨c, none⟩ := by
  induction body with
  | nil => rfl
  | cons b body ih =>
    rcases List.forall_mem_cons.mp h with ⟨hb, hbody⟩
    have hopens : ∀ title, b ≠ .heading 2 title := by
      rintro title rfl
      cases hb
    rw [List.foldl_cons, step_idle c hopens, ih hbody]

/-- A sample that has its source stays as it is. -/
theorem step_filled (c : Catalog) (hs : s.source ≠ []) (hb : cuts b = false) :
    step ⟨c, some s⟩ b = ⟨c, some s⟩ := by
  cases b with
  | heading level title =>
    have hlevel : 2 < level := by simpa [cuts] using hb
    simp only [step, if_pos hlevel]
  | paragraph text => simp [step, hs]
  | fenced text => simp [step, hs]
  | other => rfl

theorem foldl_filled (c : Catalog) (hs : s.source ≠ []) (h : Uncut body) :
    body.foldl step ⟨c, some s⟩ = ⟨c, some s⟩ := by
  induction body with
  | nil => rfl
  | cons b body ih =>
    rcases List.forall_mem_cons.mp h with ⟨hb, hbody⟩
    rw [List.foldl_cons, step_filled c hs hb, ih hbody]

/-- The blocks of a section fill the sample that it opens. -/
theorem foldl_open (c : Catalog) (name description : Text) (h : Uncut body) :
    body.foldl step ⟨c, some ⟨name, description, []⟩⟩ =
      ⟨c, some ⟨name, if description = [] then descriptionOf body else description,
        sourceOf body⟩⟩ := by
  induction body generalizing description with
  | nil => simp [descriptionOf, sourceOf]
  | cons b body ih =>
    rcases List.forall_mem_cons.mp h with ⟨hb, hbody⟩
    rw [List.foldl_cons, sourceOf_cons, descriptionOf_cons]
    cases b with
    | heading level title =>
      have hlevel : 2 < level := by simpa [cuts] using hb
      simp [step, hlevel, ih _ hbody, codeOf?, sayingOf?]
    | paragraph text =>
      by_cases hd : description = []
      · by_cases ht : text.trim = [] <;> simp [step, hd, ht, ih _ hbody, codeOf?, sayingOf?]
      · simp [step, hd, ih _ hbody, codeOf?]
    | fenced text =>
      by_cases ht : text = []
      · simp [step, ht, ih _ hbody, codeOf?, sayingOf?]
      · -- the source is found, and nothing behind it counts
        have hstep : step ⟨c, some ⟨name, description, []⟩⟩ (.fenced text) =
            ⟨c, some ⟨name, description, text⟩⟩ := rfl
        rw [hstep, foldl_filled c ht hbody]
        by_cases hd : description = [] <;> simp [ht, hd, codeOf?]
    | other => simp [step, ih _ hbody, codeOf?, sayingOf?]

/-- A section adds what it holds to the catalog and leaves no sample open, whatever came before it. -/
theorem flush_foldl_section (h : Uncut body) (hd : d.current = none ∨ cuts b = true) :
    ((b :: body).foldl step d).flush = ⟨keep d.flush.catalog (b :: body), none⟩ := by
  -- nothing is open behind the first block but what the block itself opens
  have hclosed : d.step b = (⟨d.flush.catalog, none⟩ : Draft).step b := by
    rcases hd with hnone | hb
    · rcases d with ⟨c, current⟩
      cases hnone
      rfl
    · rw [← flush_eq, step_flush hb]
  rw [List.foldl_cons, hclosed]
  generalize d.flush.catalog = c
  cases hopens : opensSample (b :: body) with
  | true =>
    rcases opensSample_iff.mp hopens with ⟨title, body', heq⟩
    cases heq
    have hstep : (⟨c, none⟩ : Draft).step (.heading 2 title) = ⟨c, some ⟨nameOf title, [], []⟩⟩ := rfl
    rw [hstep, foldl_open c _ _ h, flush_some, if_pos rfl]
    unfold sourceOf keep
    rw [sampleOf?_cons]
    cases hcode : body.findSome? codeOf? with
    | none => rfl
    | some source =>
      have hsource : source ≠ [] := ne_nil_of_findSome?_codeOf? hcode
      exact congrArg (fun c => (⟨c, none⟩ : Draft)) (if_neg hsource)
  | false =>
    have hb : ∀ title, b ≠ .heading 2 title := by
      rintro title rfl
      cases hopens
    rw [step_idle c hb, foldl_idle c h, flush_none, keep, sampleOf?_eq_none hopens]

/-- Sections that all begin where the document is cut are read one by one. -/
theorem flush_foldl_flatten {ps : List (List Block)}
    (h : ∀ p ∈ ps, IsCut p) (d : Draft) :
    (ps.flatten.foldl step d).flush = ⟨ps.foldl keep d.flush.catalog, none⟩ := by
  induction ps generalizing d with
  | nil => exact flush_eq d
  | cons p ps ih =>
    rcases List.forall_mem_cons.mp h with ⟨⟨b, body, rfl, hb, hbody⟩, hps⟩
    rw [List.flatten_cons, List.foldl_append, ih hps, flush_foldl_section hbody (.inr hb),
      List.foldl_cons]

end Draft

/-! ## All sections -/

theorem forall_of_isChain {α : Type} {P : α → Prop} {a : α} {l : List α}
    (h : (a :: l).IsChain fun _ b => P b) : ∀ b ∈ l, P b := by
  induction l generalizing a with
  | nil => exact fun b hb => absurd hb List.not_mem_nil
  | cons b l ih =>
    rcases List.isChain_cons_cons.mp h with ⟨hb, hl⟩
    exact List.forall_mem_cons.mpr ⟨hb, ih hl⟩

/-- Behind the first block of a section nothing cuts. -/
theorem exists_cons_of_mem_sections (h : p ∈ sections blocks) : ∃ b body, p = b :: body ∧ Uncut body := by
  unfold sections at h
  cases p with
  | nil => exact absurd rfl (List.ne_nil_of_mem_splitBy h)
  | cons b body =>
    have hchain : (b :: body).IsChain fun _ c => (!cuts c) = true := List.isChain_of_mem_splitBy h
    exact ⟨b, body, rfl, fun c hc => by simpa using forall_of_isChain hchain c hc⟩

/-- Every section behind the first begins with a cut. -/
theorem cuts_of_sections_eq {q : List Block} {ps : List (List Block)} (h : sections blocks = q :: ps)
    (hp : b :: body ∈ ps) : cuts b = true := by
  have hchain : (q :: ps).IsChain fun _ p => ∃ hp : p ≠ [], cuts (p.head hp) = true := by
    rw [← h]
    refine (List.isChain_getLast_head_splitBy (fun _ b => !cuts b) blocks).imp ?_
    rintro _ p ⟨-, hp, hcut⟩
    exact ⟨hp, by simpa using hcut⟩
  exact (forall_of_isChain hchain _ hp).2

/-- A catalog is what the sections of its document add to the empty catalog, one by one. -/
theorem ofBlocks_eq (blocks : List Block) : ofBlocks blocks = (sections blocks).foldl keep [] := by
  have hblocks : (sections blocks).flatten = blocks := List.flatten_splitBy _ blocks
  unfold ofBlocks
  conv_lhs => rw [← hblocks]
  cases hps : sections blocks with
  | nil => rfl
  | cons p ps =>
    rcases exists_cons_of_mem_sections (hps ▸ List.mem_cons_self) with ⟨b, body, rfl, hbody⟩
    have hrest : ∀ p ∈ ps, IsCut p := by
      intro p hp
      rcases exists_cons_of_mem_sections (hps ▸ List.mem_cons_of_mem _ hp) with ⟨b, body, rfl, hbody⟩
      exact ⟨b, body, rfl, cuts_of_sections_eq hps hp, hbody⟩
    rw [List.flatten_cons, List.foldl_append, Draft.flush_foldl_flatten hrest,
      Draft.flush_foldl_section hbody (.inl rfl), List.foldl_cons]
    rfl

theorem ofBlocks_filter_sections (blocks : List Block) :
    ofBlocks ((sections blocks).filter opensSample).flatten = ofBlocks blocks := by
  have hopen : ∀ p ∈ (sections blocks).filter opensSample, IsCut p := by
    intro p hp
    rcases List.mem_filter.mp hp with ⟨hp, hopens⟩
    rcases exists_cons_of_mem_sections hp with ⟨b, body, rfl, hbody⟩
    rcases opensSample_iff.mp hopens with ⟨title, body', heq⟩
    cases heq
    exact ⟨_, _, rfl, rfl, hbody⟩
  have hkeep : (fun c p => if opensSample p = true then keep c p else c) = keep := by
    funext c p
    cases hp : opensSample p with
    | true => rfl
    | false => rw [keep, sampleOf?_eq_none hp]; rfl
  calc ofBlocks ((sections blocks).filter opensSample).flatten
      = ((sections blocks).filter opensSample).foldl keep [] :=
        congrArg Draft.catalog (Draft.flush_foldl_flatten hopen {})
    _ = (sections blocks).foldl keep [] := by rw [List.foldl_filter, hkeep]
    _ = ofBlocks blocks := (ofBlocks_eq blocks).symm

theorem ofBlocks_filter_matters (blocks : List Block) :
    ofBlocks (blocks.filter matters) = ofBlocks blocks := by
  have hstep : (fun d b => if matters b = true then Draft.step d b else d) = Draft.step := by
    funext d b
    cases b with
    | heading level title =>
      by_cases hlevel : 2 < level
      · simp [matters, Draft.step, hlevel]
      · simp [matters, Nat.not_lt.mp hlevel]
    | paragraph text => rfl
    | fenced text => rfl
    | other => rfl
  unfold ofBlocks
  rw [List.foldl_filter, hstep]

/-- Which sections declare a sample with a name. -/
theorem exists_sampleOf?_iff :
    (∃ s, sampleOf? p = some s ∧ s.name = name) ↔
      ∃ title body text, p = .heading 2 title :: body ∧ nameOf title = name ∧
        .fenced text ∈ body ∧ text ≠ [] := by
  constructor
  · rintro ⟨s, hs, rfl⟩
    have hopens : opensSample p = true := by
      by_contra hopens
      rw [sampleOf?_eq_none (Bool.eq_false_iff.mpr hopens)] at hs
      cases hs
    rcases opensSample_iff.mp hopens with ⟨title, body, rfl⟩
    rw [sampleOf?_cons] at hs
    rcases Option.map_eq_some_iff.mp hs with ⟨source, hsource, rfl⟩
    rcases List.exists_of_findSome?_eq_some hsource with ⟨b, hb, hcode⟩
    rcases codeOf?_eq_some_iff.mp hcode with ⟨rfl, hne⟩
    exact ⟨title, body, source, rfl, rfl, hb, hne⟩
  · rintro ⟨title, body, text, rfl, rfl, htext, hne⟩
    have hsome : (body.findSome? codeOf?).isSome :=
      List.findSome?_isSome_iff.mpr ⟨_, htext, by rw [codeOf?_eq_some_iff.mpr ⟨rfl, hne⟩]; rfl⟩
    rcases Option.isSome_iff_exists.mp hsome with ⟨source, hsource⟩
    exact ⟨⟨nameOf title, descriptionOf body, source⟩, by rw [sampleOf?_cons, hsource]; rfl, rfl⟩

theorem isOrdered_ofBlocks (blocks : List Block) : IsOrdered (ofBlocks blocks) := by
  rw [ofBlocks_eq]
  exact isOrdered_foldl_keep _ List.Pairwise.nil

/-- A sample is in the catalog when a section holds it and no later section holds one of the same name. -/
theorem mem_ofBlocks_iff :
    s ∈ ofBlocks blocks ↔
      ∃ before p after, sections blocks = before ++ p :: after ∧ sampleOf? p = some s ∧
        ∀ q ∈ after, ∀ t, sampleOf? q = some t → t.name ≠ s.name := by
  have hlast : ∀ q : List Block, (sampleOf? q).filter (·.name = s.name) = none ↔
      ∀ t, sampleOf? q = some t → t.name ≠ s.name := by
    intro q
    simp [Option.filter_eq_none_iff]
  have hfound : ∀ p : List Block, (sampleOf? p).filter (·.name = s.name) = some s ↔
      sampleOf? p = some s := by
    intro p
    simp [Option.filter_eq_some_iff]
  rw [(isOrdered_ofBlocks blocks).mem_iff, ofBlocks_eq, named?_foldl_keep,
    List.findSome?_eq_some_iff]
  simp only [hlast, hfound]
  -- the sections behind the one that counts are those before it in reverse
  constructor
  · rintro ⟨after, p, before, hps, hp, hafter⟩
    refine ⟨before.reverse, p, after.reverse, ?_, hp, fun q hq => hafter q (List.mem_reverse.mp hq)⟩
    rw [← List.reverse_reverse (sections blocks), hps]
    simp
  · rintro ⟨before, p, after, hps, hp, hafter⟩
    refine ⟨after.reverse, p, before.reverse, ?_, hp, fun q hq => hafter q (List.mem_reverse.mp hq)⟩
    rw [hps]
    simp

/-- A catalog has a sample with a name when some section declares one. -/
theorem exists_mem_ofBlocks_iff :
    (∃ s ∈ ofBlocks blocks, s.name = name) ↔
      ∃ p ∈ sections blocks, ∃ s, sampleOf? p = some s ∧ s.name = name := by
  calc (∃ s ∈ ofBlocks blocks, s.name = name)
      ↔ (named? (ofBlocks blocks) name).isSome := by simp [named?]
    _ ↔ ∃ p ∈ sections blocks, ((sampleOf? p).filter (·.name = name)).isSome := by
        rw [ofBlocks_eq, named?_foldl_keep, List.findSome?_isSome_iff]
        simp only [List.mem_reverse]
    _ ↔ ∃ p ∈ sections blocks, ∃ s, sampleOf? p = some s ∧ s.name = name := by
        simp only [Option.isSome_iff_exists, Option.filter_eq_some_iff, decide_eq_true_eq]

/-- Reading a document in one pass never mixes its sections. A sample is what one section under a heading
of the second level holds, and the last such section where several have one name; deeper headings, other
blocks and all other sections have no effect. -/
theorem ofBlocks_reads_sections (blocks : List Block) :
    (∀ name, (∃ s ∈ ofBlocks blocks, s.name = name) ↔
      ∃ title body text, .heading 2 title :: body ∈ sections blocks ∧ nameOf title = name ∧
        .fenced text ∈ body ∧ text ≠ []) ∧
    (∀ s, s ∈ ofBlocks blocks ↔
      ∃ before p after, sections blocks = before ++ p :: after ∧ sampleOf? p = some s ∧
        ∀ q ∈ after, ∀ t, sampleOf? q = some t → t.name ≠ s.name) ∧
    IsOrdered (ofBlocks blocks) ∧
    ofBlocks (blocks.filter matters) = ofBlocks blocks ∧
    ofBlocks ((sections blocks).filter opensSample).flatten = ofBlocks blocks := by
  refine ⟨fun name => ?_, fun s => mem_ofBlocks_iff, isOrdered_ofBlocks blocks,
    ofBlocks_filter_matters blocks, ofBlocks_filter_sections blocks⟩
  rw [exists_mem_ofBlocks_iff]
  constructor
  · rintro ⟨p, hp, hs⟩
    rcases exists_sampleOf?_iff.mp hs with ⟨title, body, text, rfl, hrest⟩
    exact ⟨title, body, text, hp, hrest⟩
  · rintro ⟨title, body, text, hp, hrest⟩
    exact ⟨_, hp, exists_sampleOf?_iff.mpr ⟨title, body, text, rfl, hrest⟩⟩

example :
    ofBlocks [.fenced (utf8 "lost"), .heading 2 (utf8 "Two Words"), .paragraph (utf8 " "),
        .paragraph (utf8 "said "), .heading 3 (utf8 "deep"), .fenced [], .fenced (utf8 "code"),
        .paragraph (utf8 "late"), .heading 1 (utf8 "part"), .fenced (utf8 "lost")] =
      [⟨utf8 "two-words", utf8 "said", utf8 "code"⟩] := by
  decide

end Catalog

end SyntaxPlayground
