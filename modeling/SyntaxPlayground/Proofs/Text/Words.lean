import SyntaxPlayground.Proofs.Text.WhiteSpace

/-!
# The words of a text

`words` cuts a text at its white space. Two equations say all there is to say about it: what stands before
white space and what stands after it are cut on their own (`words_append_whiteSpace`), and a text without
white space is a word (`IsWord.words_eq`). Nothing else comes out of it (`isWord_of_mem_words`), so cutting
undoes joining with single spaces (`words_join`), and a text that is spaced like this is joined from its
words (`IsSingleSpaced.join_words`).
-/

namespace SyntaxPlayground

namespace Text

/-- A text that is not empty and has no white space in it. -/
structure IsWord (w : Text) : Prop where
  nonempty : w ≠ []
  unbroken : ∀ c ∈ whiteSpace, ¬ encodeScalar c <:+: w

/-- Words with one space between each two of them and nothing around them. -/
def IsSingleSpaced (t : Text) : Prop :=
  ∃ ws : List Text, (∀ w ∈ ws, w.IsWord) ∧ t = join (utf8 " ") ws

/-! ## White space among the pieces -/

/-- White space is a piece of its own, whatever stands around it. -/
theorem pieces_append_encodeScalar_append {c : Nat} (hc : c ∈ whiteSpace) (t u : Text) :
    pieces (t ++ (encodeScalar c ++ u)) = pieces t ++ pieceOf c :: pieces u := by
  rcases exists_cons_encodeScalar c with ⟨b, v, heq, hb⟩
  have hpieces := pieces_encodeScalar_append hc u
  rw [heq, List.cons_append] at hpieces ⊢
  rw [pieces_append_of_not_isContinuation hb, hpieces]

/-- A text has white space in it if and only if one of its pieces is white space. -/
theorem exists_infix_iff {t : Text} :
    (∃ c ∈ whiteSpace, encodeScalar c <:+: t) ↔ ∃ p ∈ pieces t, p.isBlank = true := by
  constructor
  · rintro ⟨c, hc, front, back, rfl⟩
    refine ⟨pieceOf c, ?_, isBlank_pieceOf hc⟩
    rw [List.append_assoc, pieces_append_encodeScalar_append hc]
    exact List.mem_append_right _ List.mem_cons_self
  · rintro ⟨p, hp, hblank⟩
    rcases eq_pieceOf_of_isBlank hp hblank with ⟨hc, heq⟩
    rcases List.append_of_mem hp with ⟨front, back, hsplit⟩
    have htext := congrArg ofPieces hsplit
    rw [ofPieces_pieces, ofPieces, List.flatMap_append, List.flatMap_cons, heq] at htext
    refine ⟨p.scalar, hc, ofPieces front, ofPieces back, ?_⟩
    rw [htext, List.append_assoc]
    rfl

theorem isWord_iff {w : Text} : w.IsWord ↔ w ≠ [] ∧ ∀ p ∈ pieces w, p.isBlank = false := by
  have hunbroken : (∀ c ∈ whiteSpace, ¬ encodeScalar c <:+: w) ↔ ∀ p ∈ pieces w, p.isBlank = false := by
    simpa using not_congr (exists_infix_iff (t := w))
  constructor
  · intro h
    exact ⟨h.nonempty, hunbroken.mp h.unbroken⟩
  · rintro ⟨hne, hpieces⟩
    exact ⟨hne, hunbroken.mpr hpieces⟩

instance (w : Text) : Decidable w.IsWord :=
  decidable_of_iff _ isWord_iff.symm

/-! ## Cutting at white space -/

/-- The words that some pieces make up. -/
def wordsOf (ps : List Piece) : List Text :=
  if (collectWords ps).1.isEmpty then (collectWords ps).2 else (collectWords ps).1 :: (collectWords ps).2

theorem words_eq (t : Text) : t.words = wordsOf t.pieces := rfl

variable {p : Piece} {ps : List Piece}

theorem collectWords_cons_of_isBlank (hp : p.isBlank = true) (ps : List Piece) :
    collectWords (p :: ps) = ([], wordsOf ps) := by
  rw [collectWords]
  exact if_pos hp

theorem collectWords_cons_of_not_isBlank (hp : p.isBlank = false) (ps : List Piece) :
    collectWords (p :: ps) = (p.bytes ++ (collectWords ps).1, (collectWords ps).2) := by
  rw [collectWords]
  exact if_neg (Bool.eq_false_iff.mp hp)

/-- The word that some pieces begin with ends before white space at the latest. -/
theorem collectWords_append_cons (hp : p.isBlank = true) (ps qs : List Piece) :
    collectWords (ps ++ p :: qs) = ((collectWords ps).1, (collectWords ps).2 ++ wordsOf qs) := by
  induction ps with
  | nil => exact collectWords_cons_of_isBlank hp qs
  | cons q ps ih =>
    rw [List.cons_append]
    cases hq : q.isBlank with
    | true =>
      -- here the first word is empty, and the one that ends before `p` is a later one
      rw [collectWords_cons_of_isBlank hq, collectWords_cons_of_isBlank hq]
      unfold wordsOf
      rw [ih]
      cases (collectWords ps).1.isEmpty <;> rfl
    | false => rw [collectWords_cons_of_not_isBlank hq, collectWords_cons_of_not_isBlank hq, ih]

theorem wordsOf_append_cons (hp : p.isBlank = true) (ps qs : List Piece) :
    wordsOf (ps ++ p :: qs) = wordsOf ps ++ wordsOf qs := by
  unfold wordsOf
  rw [collectWords_append_cons hp]
  cases (collectWords ps).1.isEmpty <;> rfl

/-- What stands before white space and what stands after it are cut on their own. -/
theorem words_append_whiteSpace {c : Nat} (hc : c ∈ whiteSpace) (t u : Text) :
    words (t ++ (encodeScalar c ++ u)) = words t ++ words u := by
  rw [words_eq, pieces_append_encodeScalar_append hc, wordsOf_append_cons (isBlank_pieceOf hc)]
  rfl

theorem words_append_space (t u : Text) : words (t ++ utf8 " " ++ u) = words t ++ words u := by
  have hspace : utf8 " " = encodeScalar 0x20 := by decide
  rw [hspace, List.append_assoc]
  exact words_append_whiteSpace (by decide) t u

theorem words_nil : words [] = [] := rfl

theorem collectWords_of_forall_not_isBlank (hps : ∀ p ∈ ps, p.isBlank = false) :
    collectWords ps = (ofPieces ps, []) := by
  induction ps with
  | nil => rfl
  | cons p ps ih =>
    rw [List.forall_mem_cons] at hps
    rw [collectWords_cons_of_not_isBlank hps.1, ih hps.2]
    rfl

/-- A text without white space is a word. -/
theorem IsWord.words_eq {w : Text} (h : w.IsWord) : words w = [w] := by
  rcases isWord_iff.mp h with ⟨hne, hpieces⟩
  rw [Text.words_eq, wordsOf, collectWords_of_forall_not_isBlank hpieces, ofPieces_pieces,
    if_neg (by simpa using hne)]

/-! ## Nothing but words -/

/-- A property holds of every text if it holds of the empty one and of every word, and is passed on from
what stands before white space and what stands after it to the text they make up. -/
theorem whiteSpace_induct {motive : Text → Prop} (nil : motive []) (word : ∀ w, IsWord w → motive w)
    (cut : ∀ t c u, c ∈ whiteSpace → motive t → motive u → motive (t ++ (encodeScalar c ++ u)))
    (t : Text) : motive t := by
  by_cases hspace : ∃ c ∈ whiteSpace, encodeScalar c <:+: t
  · rcases hspace with ⟨c, hc, front, back, hsplit⟩
    have htext : front ++ (encodeScalar c ++ back) = t := by rw [← hsplit, List.append_assoc]
    have hlength : front.length + ((encodeScalar c).length + back.length) = t.length := by
      rw [← htext, List.length_append, List.length_append]
    have hpos : 0 < (encodeScalar c).length := by
      rcases exists_cons_encodeScalar c with ⟨b, v, heq, -⟩
      rw [heq]
      exact Nat.succ_pos _
    -- the white space between them is not empty, so both are shorter than the text
    have hfront : motive front := whiteSpace_induct nil word cut front
    have hback : motive back := whiteSpace_induct nil word cut back
    rw [← htext]
    exact cut front c back hc hfront hback
  · by_cases hne : t = []
    · rw [hne]
      exact nil
    · exact word t ⟨hne, fun c hc hinfix => hspace ⟨c, hc, hinfix⟩⟩
termination_by t.length
decreasing_by all_goals omega

theorem isWord_of_mem_words {t w : Text} (hw : w ∈ words t) : w.IsWord := by
  induction t using whiteSpace_induct with
  | nil => exact absurd hw List.not_mem_nil
  | word v hv =>
    rw [hv.words_eq, List.mem_singleton] at hw
    rw [hw]
    exact hv
  | cut t c u hc iht ihu =>
    rw [words_append_whiteSpace hc] at hw
    rcases List.mem_append.mp hw with hw | hw
    · exact iht hw
    · exact ihu hw

/-! ## Joining words -/

/-- Cutting undoes joining. -/
theorem words_join {ws : List Text} (hws : ∀ w ∈ ws, w.IsWord) : words (join (utf8 " ") ws) = ws := by
  induction ws with
  | nil => rfl
  | cons w ws ih =>
    rw [List.forall_mem_cons] at hws
    -- a single word has no space behind it
    rcases ws with _ | ⟨v, ws⟩
    · exact hws.1.words_eq
    · rw [join, words_append_space, hws.1.words_eq, ih hws.2]
      rfl

/-- Joining undoes cutting where there was only one space between two words. -/
theorem IsSingleSpaced.join_words {t : Text} (h : t.IsSingleSpaced) : join (utf8 " ") t.words = t := by
  rcases h with ⟨ws, hws, rfl⟩
  rw [words_join hws]

end Text

end SyntaxPlayground
