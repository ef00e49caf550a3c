import SyntaxPlayground.Proofs.Text.Character

/-!
# White space at the ends of a text

White space is written as the UTF-8 sequences of the code points in `whiteSpace`, one after the other; no
byte outside such a sequence is white space. Trimming takes off all of it that stands at the two ends of a
text, and nothing else: `trim_eq_iff`.
-/

namespace SyntaxPlayground

/-- The code points of the Unicode property `White_Space`. -/
def whiteSpace : List Nat :=
  [0x09, 0x0A, 0x0B, 0x0C, 0x0D, 0x20, 0x85, 0xA0, 0x1680, 0x2000, 0x2001, 0x2002, 0x2003, 0x2004,
    0x2005, 0x2006, 0x2007, 0x2008, 0x2009, 0x200A, 0x2028, 0x2029, 0x202F, 0x205F, 0x3000]

theorem isBlank_iff_mem {c : Nat} : isBlank c = true ↔ c ∈ whiteSpace := by
  simp only [isBlank, whiteSpace, Bool.or_eq_true, Bool.and_eq_true, decide_eq_true_eq, beq_iff_eq,
    List.mem_cons, List.not_mem_nil, or_false]
  omega

namespace Text

/-! ## White space as characters -/

/-- The text is white space: characters of white space, one after the other. -/
def IsWhiteSpace (t : Text) : Prop :=
  ∃ cs : List Nat, (∀ c ∈ cs, c ∈ whiteSpace) ∧ t = cs.flatMap encodeScalar

/-- The piece of a character. -/
def pieceOf (c : Nat) : Piece :=
  ⟨encodeScalar c, c⟩

theorem pieces_encodeScalar_append {c : Nat} (hc : c ∈ whiteSpace) (u : Text) :
    pieces (encodeScalar c ++ u) = pieceOf c :: pieces u := by
  have hrange : c ≤ 0x3000 := by
    revert c
    decide
  exact isWhole_encodeScalar (by omega) (by omega) u

theorem isBlank_pieceOf {c : Nat} (hc : c ∈ whiteSpace) : (pieceOf c).isBlank = true :=
  isBlank_iff_mem.mpr hc

/-- A piece that is white space is the character of its code point. -/
theorem eq_pieceOf_of_isBlank {t : Text} {p : Piece} (hp : p ∈ pieces t) (hblank : p.isBlank = true) :
    p.scalar ∈ whiteSpace ∧ p = pieceOf p.scalar := by
  rcases isCharacter_or_isIll t p hp with hcharacter | ⟨b, rfl⟩
  · refine ⟨isBlank_iff_mem.mp hblank, ?_⟩
    rw [pieceOf, ← hcharacter.bytes]
  · -- the replacement character is no white space
    cases hblank

/-- Pieces of a text that are white space make up white space. -/
theorem isWhiteSpace_ofPieces {t : Text} {ps : List Piece} (hps : ∀ p ∈ ps, p ∈ pieces t)
    (hblank : ∀ p ∈ ps, p.isBlank = true) : (ofPieces ps).IsWhiteSpace := by
  refine ⟨ps.map Piece.scalar, ?_, ?_⟩
  · intro c hc
    obtain ⟨p, hp, rfl⟩ := List.mem_map.mp hc
    exact (eq_pieceOf_of_isBlank (hps p hp) (hblank p hp)).1
  · rw [List.flatMap_map]
    apply List.flatMap_congr
    intro p hp
    exact congrArg Piece.bytes (eq_pieceOf_of_isBlank (hps p hp) (hblank p hp)).2

/-- White space falls into its characters, whatever follows it. -/
theorem pieces_flatMap_append {cs : List Nat} (hcs : ∀ c ∈ cs, c ∈ whiteSpace) (u : Text) :
    pieces (cs.flatMap encodeScalar ++ u) = cs.map pieceOf ++ pieces u := by
  induction cs with
  | nil => rfl
  | cons c cs ih =>
    rw [List.flatMap_cons, List.append_assoc, pieces_encodeScalar_append (hcs c List.mem_cons_self),
      ih fun d hd => hcs d (List.mem_cons_of_mem c hd), List.map_cons, List.cons_append]

theorem isBlank_of_mem_map {cs : List Nat} (hcs : ∀ c ∈ cs, c ∈ whiteSpace) :
    ∀ p ∈ cs.map pieceOf, p.isBlank = true := by
  intro p hp
  obtain ⟨c, hc, rfl⟩ := List.mem_map.mp hp
  exact isBlank_pieceOf (hcs c hc)

/-- A text can be cut before white space. -/
theorem pieces_append_flatMap {cs : List Nat} (hcs : ∀ c ∈ cs, c ∈ whiteSpace) (t : Text) :
    pieces (t ++ cs.flatMap encodeScalar) = pieces t ++ cs.map pieceOf := by
  have hspace := pieces_flatMap_append hcs []
  rw [List.append_nil, pieces, List.append_nil] at hspace
  cases cs with
  | nil => rw [List.flatMap_nil, List.append_nil, List.map_nil, List.append_nil]
  | cons c cs =>
    obtain ⟨b, u, hc, hb⟩ := exists_cons_encodeScalar c
    rw [List.flatMap_cons, hc, List.cons_append] at hspace ⊢
    rw [pieces_append_of_not_isContinuation hb, hspace]

/-! ## Trimming -/

/-- `k` is what is left of `t` without the white space at its ends. -/
structure IsTrimmed (t k : Text) : Prop where
  split : ∃ front back, front.IsWhiteSpace ∧ back.IsWhiteSpace ∧ t = front ++ k ++ back
  front : ∀ c ∈ whiteSpace, ¬ encodeScalar c <+: k
  back : ∀ c ∈ whiteSpace, ¬ encodeScalar c <:+ k

theorem trimPieces_of_split {front ps back : List Piece} (hfront : ∀ p ∈ front, p.isBlank = true)
    (hback : ∀ p ∈ back, p.isBlank = true) (hps : ps.dropWhile Piece.isBlank = ps)
    (hps' : ps.reverse.dropWhile Piece.isBlank = ps.reverse) :
    trimPieces (front ++ (ps ++ back)) = ps := by
  have hreverse : ∀ p ∈ back.reverse, p.isBlank = true := fun p hp => hback p (List.mem_reverse.mp hp)
  unfold trimPieces
  rw [List.dropWhile_append_of_pos hfront, List.dropWhile_append, hps]
  cases ps with
  | nil =>
    have hnil : back.dropWhile Piece.isBlank = [] := List.dropWhile_eq_nil_iff.mpr hback
    rw [List.isEmpty_nil, if_pos rfl, hnil]
    rfl
  | cons p ps =>
    rw [List.isEmpty_cons, if_neg Bool.false_ne_true, List.reverse_append,
      List.dropWhile_append_of_pos hreverse, hps', List.reverse_reverse]

/-- Pieces of a text that begins with no white space have nothing to drop in front. -/
theorem dropWhile_pieces {k : Text} (hk : ∀ c ∈ whiteSpace, ¬ encodeScalar c <+: k) :
    (pieces k).dropWhile Piece.isBlank = pieces k := by
  have htext := ofPieces_pieces k
  cases hpieces : pieces k with
  | nil => rfl
  | cons p ps =>
    have hblank : ¬ p.isBlank = true := by
      intro hblank
      obtain ⟨hmem, hp⟩ := eq_pieceOf_of_isBlank (by rw [hpieces]; exact List.mem_cons_self) hblank
      apply hk _ hmem
      rw [hpieces, ofPieces, List.flatMap_cons, hp] at htext
      exact ⟨_, htext⟩
    rw [List.dropWhile_cons_of_neg hblank]

/-- Pieces of a text that ends with no white space have nothing to drop from behind. -/
theorem dropWhile_reverse_pieces {k : Text} (hk : ∀ c ∈ whiteSpace, ¬ encodeScalar c <:+ k) :
    (pieces k).reverse.dropWhile Piece.isBlank = (pieces k).reverse := by
  have htext := ofPieces_pieces k
  cases hpieces : (pieces k).reverse with
  | nil => rfl
  | cons p ps =>
    have hsplit : pieces k = ps.reverse ++ [p] := by
      rw [← List.reverse_reverse (pieces k), hpieces, List.reverse_cons]
    have hblank : ¬ p.isBlank = true := by
      intro hblank
      obtain ⟨hmem, hp⟩ := eq_pieceOf_of_isBlank (by rw [hsplit]; simp) hblank
      apply hk _ hmem
      rw [hsplit, ofPieces, List.flatMap_append, List.flatMap_singleton, hp] at htext
      exact ⟨_, htext⟩
    rw [List.dropWhile_cons_of_neg hblank]

theorem not_isBlank_of_dropWhile {p : Piece} {ps : List Piece}
    (h : (p :: ps).dropWhile Piece.isBlank = p :: ps) : ¬ p.isBlank = true := by
  intro hblank
  rw [List.dropWhile_cons_of_pos hblank] at h
  have hlength := (List.dropWhile_sublist Piece.isBlank (l := ps)).length_le
  rw [h, List.length_cons] at hlength
  omega

/-- Trimming leaves what stands between the white space at both ends. -/
theorem isTrimmed_trim (t : Text) : t.IsTrimmed t.trim := by
  constructor
  · obtain ⟨front, back, hsplit, hfront, hback⟩ := trimPieces_split t.pieces
    have htext := congrArg ofPieces hsplit
    rw [ofPieces_pieces] at htext
    refine ⟨ofPieces front, ofPieces back, ?_, ?_, ?_⟩
    · apply isWhiteSpace_ofPieces (t := t) _ hfront
      intro p hp
      rw [hsplit]
      exact List.mem_append_left _ hp
    · apply isWhiteSpace_ofPieces (t := t) _ hback
      intro p hp
      rw [hsplit]
      exact List.mem_append_right _ (List.mem_append_right _ hp)
    · rw [List.append_assoc]
      simpa only [ofPieces, List.flatMap_append, trim] using htext
  · rintro c hc ⟨u, hu⟩
    -- the first piece of the trimmed text would have been dropped
    have hpieces := pieces_trim t
    rw [← hu, pieces_encodeScalar_append hc] at hpieces
    have hkept := dropWhile_trimPieces t.pieces
    rw [← hpieces] at hkept
    exact not_isBlank_of_dropWhile hkept (isBlank_pieceOf hc)
  · rintro c hc ⟨u, hu⟩
    have hpieces := pieces_trim t
    have hlast := pieces_append_flatMap (List.forall_mem_singleton.mpr hc) u
    rw [List.flatMap_singleton, List.map_singleton] at hlast
    rw [← hu, hlast] at hpieces
    have hkept := dropWhile_reverse_trimPieces t.pieces
    rw [← hpieces, List.reverse_append, List.reverse_singleton, List.singleton_append] at hkept
    exact not_isBlank_of_dropWhile hkept (isBlank_pieceOf hc)

/-- What stands between the white space at both ends is what trimming leaves. -/
theorem IsTrimmed.trim_eq {t k : Text} (h : t.IsTrimmed k) : t.trim = k := by
  obtain ⟨_, _, ⟨cs, hcs, rfl⟩, ⟨ds, hds, rfl⟩, rfl⟩ := h.split
  unfold trim
  rw [List.append_assoc, pieces_flatMap_append hcs, pieces_append_flatMap hds,
    trimPieces_of_split (isBlank_of_mem_map hcs) (isBlank_of_mem_map hds) (dropWhile_pieces h.front)
      (dropWhile_reverse_pieces h.back), ofPieces_pieces]

/-- Trimming takes off the white space at both ends and nothing else. -/
theorem trim_eq_iff {t k : Text} : t.trim = k ↔ t.IsTrimmed k := by
  constructor
  · rintro rfl
    exact isTrimmed_trim t
  · exact IsTrimmed.trim_eq

/-- White space around a text that has none at its ends is trimmed off. -/
theorem trim_append {front k back : Text} (hfront : front.IsWhiteSpace) (hback : back.IsWhiteSpace)
    (hk : k.trim = k) : (front ++ k ++ back).trim = k := by
  have hends := trim_eq_iff.mp hk
  exact trim_eq_iff.mpr ⟨⟨front, back, hfront, hback, rfl⟩, hends.front, hends.back⟩

end Text

end SyntaxPlayground
