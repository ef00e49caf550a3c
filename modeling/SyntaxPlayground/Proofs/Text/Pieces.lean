import Mathlib.Data.List.DropRight
import SyntaxPlayground.Text.Blank

/-!
# Pieces and trimming

How the pieces of a text depend on what stands around it. `pieces_induct` goes through a text piece by
piece: a well-formed sequence is a piece whatever follows it, and a byte that starts none is one
because of what follows, or does not follow, it. So a text can be cut between its pieces
(`pieces_of_split`) and before every byte that continues no sequence
(`pieces_append_of_not_isContinuation`), and trimming a text twice trims it once (`trim_trim`).
-/

namespace SyntaxPlayground

namespace Text

/-! ## Going through a text piece by piece -/

/-- The byte `a` starts no well-formed sequence before `rest`. -/
structure StartsNone (a : UInt8) (rest : Text) : Prop where
  notBasic : ¬ a < 0x80
  notPair : ∀ b u, rest = b :: u → isPair a b = false
  notTriple : ∀ b c u, rest = b :: c :: u → (opensTriple a b && isContinuation c) = false
  notQuad : ∀ b c d u, rest = b :: c :: d :: u →
    (opensQuad a b && isContinuation c && isContinuation d) = false

theorem pieces_of_startsNone {a : UInt8} {rest : Text} (h : StartsNone a rest) :
    pieces (a :: rest) = Piece.ill a :: pieces rest := by
  rw [pieces.eq_def]
  rcases rest with _ | ⟨b, _ | ⟨c, _ | ⟨d, w⟩⟩⟩
  · simp only [h.notBasic, if_false]
    rfl
  · have hpair := h.notPair b [] rfl
    simp only [h.notBasic, hpair, Bool.false_eq_true, if_false]
  · have hpair := h.notPair b [c] rfl
    have htriple := h.notTriple b c [] rfl
    simp only [h.notBasic, hpair, htriple, Bool.false_eq_true, if_false]
  · have hpair := h.notPair b (c :: d :: w) rfl
    have htriple := h.notTriple b c (d :: w) rfl
    have hquad := h.notQuad b c d w rfl
    simp only [h.notBasic, hpair, htriple, hquad, Bool.false_eq_true, if_false]

/-- A piece that is one whatever follows it. -/
def IsWhole (p : Piece) : Prop :=
  ∀ rest, pieces (p.bytes ++ rest) = p :: pieces rest

section Whole

variable {a b c d : UInt8}

theorem isWhole_basic (h : a < 0x80) : IsWhole ⟨[a], a.toNat⟩ := by
  intro rest
  rw [List.singleton_append, pieces.eq_def]
  simp only [h, if_true]

theorem isWhole_pair (hbasic : ¬ a < 0x80) (h : isPair a b = true) :
    IsWhole ⟨[a, b], a.toNat % 32 * 64 + lowBits b⟩ := by
  intro rest
  simp only [List.cons_append, List.nil_append]
  rw [pieces.eq_def]
  simp only [hbasic, h, if_false, if_true]

theorem isWhole_triple (hbasic : ¬ a < 0x80) (hpair : ¬ isPair a b = true)
    (h : (opensTriple a b && isContinuation c) = true) :
    IsWhole ⟨[a, b, c], a.toNat % 16 * 4096 + lowBits b * 64 + lowBits c⟩ := by
  intro rest
  simp only [List.cons_append, List.nil_append]
  rw [pieces.eq_def]
  simp only [hbasic, hpair, h, Bool.false_eq_true, if_false, if_true]

theorem isWhole_quad (hbasic : ¬ a < 0x80) (hpair : ¬ isPair a b = true)
    (htriple : ¬ (opensTriple a b && isContinuation c) = true)
    (h : (opensQuad a b && isContinuation c && isContinuation d) = true) :
    IsWhole ⟨[a, b, c, d],
      a.toNat % 8 * 262144 + lowBits b * 4096 + lowBits c * 64 + lowBits d⟩ := by
  intro rest
  simp only [List.cons_append, List.nil_append]
  rw [pieces.eq_def]
  simp only [hbasic, hpair, htriple, h, Bool.false_eq_true, if_false, if_true]

end Whole

/-- A property holds of every text if it is passed on from what follows a whole piece, or a byte that
starts none, to the text with it. -/
theorem pieces_induct {motive : Text → Prop} (nil : motive [])
    (whole : ∀ p rest, IsWhole p → motive rest → motive (p.bytes ++ rest))
    (ill : ∀ a rest, StartsNone a rest → motive rest → motive (a :: rest)) :
    ∀ t, motive t := by
  intro t
  fun_induction pieces t with
  | case1 => exact nil
  | case2 a t hbasic ih => exact whole ⟨[a], a.toNat⟩ t (isWhole_basic hbasic) ih
  | case3 a hbasic =>
    refine ill a [] ⟨hbasic, ?_, ?_, ?_⟩ nil
    · intro b u h
      cases h
    · intro b c u h
      cases h
    · intro b c d u h
      cases h
  | case4 a hbasic b u hpair ih => exact whole _ u (isWhole_pair hbasic hpair) ih
  | case5 a hbasic b hpair ih =>
    refine ill a [b] ⟨hbasic, ?_, ?_, ?_⟩ ih
    · intro b' u h
      cases h
      exact Bool.eq_false_iff.mpr hpair
    · intro b' c u h
      cases h
    · intro b' c d u h
      cases h
  | case6 a hbasic b hpair c v htriple ih => exact whole _ v (isWhole_triple hbasic hpair htriple) ih
  | case7 a hbasic b hpair c htriple ih =>
    refine ill a [b, c] ⟨hbasic, ?_, ?_, ?_⟩ ih
    · intro b' u h
      cases h
      exact Bool.eq_false_iff.mpr hpair
    · intro b' c' u h
      cases h
      exact Bool.eq_false_iff.mpr htriple
    · intro b' c' d u h
      cases h
  | case8 a hbasic b hpair c htriple d w hquad ih =>
    exact whole _ w (isWhole_quad hbasic hpair htriple hquad) ih
  | case9 a hbasic b hpair c htriple d w hquad ih =>
    refine ill a (b :: c :: d :: w) ⟨hbasic, ?_, ?_, ?_⟩ ih
    · intro b' u h
      cases h
      exact Bool.eq_false_iff.mpr hpair
    · intro b' c' u h
      cases h
      exact Bool.eq_false_iff.mpr htriple
    · intro b' c' d' u h
      cases h
      exact Bool.eq_false_iff.mpr hquad

/-! ## Cutting a text -/

/-- A byte that starts no sequence starts none when less follows it. -/
theorem StartsNone.of_append {a : UInt8} {t u : Text} (h : StartsNone a (t ++ u)) :
    StartsNone a t := by
  refine ⟨h.notBasic, ?_, ?_, ?_⟩
  · rintro b v rfl
    exact h.notPair b (v ++ u) rfl
  · rintro b c v rfl
    exact h.notTriple b c (v ++ u) rfl
  · rintro b c d v rfl
    exact h.notQuad b c d (v ++ u) rfl

section Bytes

variable {a b : UInt8}

theorem isContinuation_iff : isContinuation b = true ↔ 0x80 ≤ b.toNat ∧ b.toNat ≤ 0xBF := by
  simp [isContinuation, UInt8.le_iff_toNat_le]

theorem isPair_iff :
    isPair a b = true ↔ (0xC2 ≤ a.toNat ∧ a.toNat ≤ 0xDF) ∧ 0x80 ≤ b.toNat ∧ b.toNat ≤ 0xBF := by
  simp [isPair, isContinuation, UInt8.le_iff_toNat_le]

theorem opensTriple_iff :
    opensTriple a b = true ↔
      (a.toNat = 0xE0 ∧ 0xA0 ≤ b.toNat ∧ b.toNat ≤ 0xBF ∨
        (0xE1 ≤ a.toNat ∧ a.toNat ≤ 0xEF ∧ a.toNat ≠ 0xED) ∧ 0x80 ≤ b.toNat ∧ b.toNat ≤ 0xBF) ∨
      a.toNat = 0xED ∧ 0x80 ≤ b.toNat ∧ b.toNat ≤ 0x9F := by
  simp [opensTriple, isContinuation, UInt8.le_iff_toNat_le, ← UInt8.toNat_inj, and_assoc]

theorem opensQuad_iff :
    opensQuad a b = true ↔
      (a.toNat = 0xF0 ∧ 0x90 ≤ b.toNat ∧ b.toNat ≤ 0xBF ∨
        (0xF1 ≤ a.toNat ∧ a.toNat ≤ 0xF3) ∧ 0x80 ≤ b.toNat ∧ b.toNat ≤ 0xBF) ∨
      a.toNat = 0xF4 ∧ 0x80 ≤ b.toNat ∧ b.toNat ≤ 0x8F := by
  simp [opensQuad, isContinuation, UInt8.le_iff_toNat_le, ← UInt8.toNat_inj, and_assoc]

theorem not_isContinuation (h : b < 0x80) : isContinuation b = false := by
  rw [Bool.eq_false_iff, ne_eq, isContinuation_iff]
  have hlow : b.toNat < 0x80 := UInt8.lt_iff_toNat_lt.mp h
  omega

/-- A byte that continues no sequence is not the second one of a sequence either. -/
theorem not_opens (h : isContinuation b = false) :
    isPair a b = false ∧ opensTriple a b = false ∧ opensQuad a b = false := by
  rw [Bool.eq_false_iff, ne_eq, isContinuation_iff] at h
  simp only [Bool.eq_false_iff, ne_eq, isPair_iff, opensTriple_iff, opensQuad_iff]
  omega

end Bytes

/-- A byte that starts no sequence at the end of a text starts none before a byte that continues none. -/
theorem StartsNone.append {a b : UInt8} {t : Text} (h : StartsNone a t)
    (hb : isContinuation b = false) (u : Text) : StartsNone a (t ++ b :: u) := by
  obtain ⟨hpair, htriple, hquad⟩ : isPair a b = false ∧ opensTriple a b = false ∧ opensQuad a b = false :=
    not_opens hb
  refine ⟨h.notBasic, ?_, ?_, ?_⟩
  · intro x v heq
    rcases t with _ | ⟨y, t⟩
    · cases heq
      exact hpair
    · cases heq
      exact h.notPair x t rfl
  · intro x y v heq
    rcases t with _ | ⟨x', _ | ⟨y', t⟩⟩
    · cases heq
      rw [htriple, Bool.false_and]
    · cases heq
      rw [hb, Bool.and_false]
    · cases heq
      exact h.notTriple x y t rfl
  · intro x y z v heq
    rcases t with _ | ⟨x', _ | ⟨y', _ | ⟨z', t⟩⟩⟩
    · cases heq
      rw [hquad, Bool.false_and, Bool.false_and]
    · cases heq
      rw [hb, Bool.and_false, Bool.false_and]
    · cases heq
      rw [hb, Bool.and_false]
    · cases heq
      exact h.notQuad x y z t rfl

/-- A text can be cut before every byte that continues no sequence. -/
theorem pieces_append_of_not_isContinuation {b : UInt8} (hb : isContinuation b = false) (t u : Text) :
    pieces (t ++ b :: u) = pieces t ++ pieces (b :: u) := by
  induction t using pieces_induct with
  | nil => rfl
  | whole p rest hp ih => rw [List.append_assoc, hp, ih, hp, List.cons_append]
  | ill a rest ha ih =>
    rw [List.cons_append, pieces_of_startsNone (ha.append hb u), ih, pieces_of_startsNone ha,
      List.cons_append]

/-- A text can be cut before every basic byte. -/
theorem pieces_append_of_lt {b : UInt8} (hb : b < 0x80) (t u : Text) :
    pieces (t ++ b :: u) = pieces t ++ pieces (b :: u) :=
  pieces_append_of_not_isContinuation (not_isContinuation hb) t u

/-- A text can be cut between its pieces. -/
theorem pieces_of_split {t : Text} {ps qs : List Piece} (h : pieces t = ps ++ qs) :
    pieces (ofPieces ps) = ps ∧ pieces (ofPieces qs) = qs := by
  induction t using pieces_induct generalizing ps with
  | nil =>
    rw [pieces] at h
    rcases List.append_eq_nil_iff.mp h.symm with ⟨rfl, rfl⟩
    exact ⟨rfl, rfl⟩
  | whole p rest hp ih =>
    rcases ps with _ | ⟨q, ps⟩
    · refine ⟨rfl, ?_⟩
      rw [List.nil_append] at h
      rw [← h, ofPieces_pieces]
    · rw [hp, List.cons_append] at h
      rcases List.cons.inj h with ⟨rfl, hrest⟩
      rcases ih hrest with ⟨hps, hqs⟩
      refine ⟨?_, hqs⟩
      have hbytes : ofPieces (p :: ps) = p.bytes ++ ofPieces ps := List.flatMap_cons
      rw [hbytes, hp, hps]
  | ill a rest ha ih =>
    rcases ps with _ | ⟨q, ps⟩
    · refine ⟨rfl, ?_⟩
      rw [List.nil_append] at h
      rw [← h, ofPieces_pieces]
    · rw [pieces_of_startsNone ha, List.cons_append] at h
      rcases List.cons.inj h with ⟨rfl, hrest⟩
      rcases ih hrest with ⟨hps, hqs⟩
      refine ⟨?_, hqs⟩
      -- less follows the byte than before
      have hless : StartsNone a (ofPieces ps) := by
        have htext : rest = ofPieces ps ++ ofPieces qs := by
          rw [← ofPieces_pieces rest, hrest]
          exact List.flatMap_append
        rw [htext] at ha
        exact ha.of_append
      have hbytes : ofPieces (Piece.ill a :: ps) = a :: ofPieces ps := rfl
      rw [hbytes, pieces_of_startsNone hless, hps]

/-! ## Trimming -/

/-- What begins like a list that has nothing to drop has nothing to drop either. -/
theorem dropWhile_of_append {α : Type} {p : α → Bool} {l l' : List α}
    (h : (l ++ l').dropWhile p = l ++ l') : l.dropWhile p = l := by
  rcases l with _ | ⟨a, l⟩
  · rfl
  · by_cases ha : p a = true
    · rw [List.cons_append, List.dropWhile_cons_of_pos ha] at h
      have hlength := (List.dropWhile_sublist p (l := l ++ l')).length_le
      rw [h, List.length_cons] at hlength
      omega
    · rw [List.dropWhile_cons_of_neg ha]

/-- What is dropped at the end stands after what trimming leaves. -/
theorem trimPieces_append_back (ps : List Piece) :
    trimPieces ps ++ ((ps.dropWhile Piece.isBlank).reverse.takeWhile Piece.isBlank).reverse =
      ps.dropWhile Piece.isBlank := by
  unfold trimPieces
  rw [← List.reverse_append, List.takeWhile_append_dropWhile, List.reverse_reverse]

/-- Trimming takes white space off both ends. -/
theorem trimPieces_split (ps : List Piece) : ∃ front back, ps = front ++ (trimPieces ps ++ back) ∧
    (∀ p ∈ front, p.isBlank = true) ∧ ∀ p ∈ back, p.isBlank = true := by
  refine ⟨ps.takeWhile Piece.isBlank,
    ((ps.dropWhile Piece.isBlank).reverse.takeWhile Piece.isBlank).reverse, ?_, ?_, ?_⟩
  · rw [trimPieces_append_back, List.takeWhile_append_dropWhile]
  · intro p hp
    exact List.mem_takeWhile_imp hp
  · intro p hp
    exact List.mem_takeWhile_imp (List.mem_reverse.mp hp)

theorem dropWhile_trimPieces (ps : List Piece) :
    (trimPieces ps).dropWhile Piece.isBlank = trimPieces ps := by
  apply dropWhile_of_append
  rw [trimPieces_append_back, List.dropWhile_idempotent]

theorem dropWhile_reverse_trimPieces (ps : List Piece) :
    (trimPieces ps).reverse.dropWhile Piece.isBlank = (trimPieces ps).reverse := by
  unfold trimPieces
  rw [List.reverse_reverse, List.dropWhile_idempotent]

theorem trimPieces_trimPieces (ps : List Piece) : trimPieces (trimPieces ps) = trimPieces ps := by
  rw [trimPieces, dropWhile_trimPieces, dropWhile_reverse_trimPieces, List.reverse_reverse]

/-- The pieces of a trimmed text are those that trimming leaves. -/
theorem pieces_trim (t : Text) : pieces t.trim = trimPieces t.pieces := by
  obtain ⟨front, back, hsplit, _⟩ := trimPieces_split t.pieces
  have hrest := (pieces_of_split hsplit).2
  exact (pieces_of_split hrest).1

/-- Trimming a text twice trims it once. -/
theorem trim_trim (t : Text) : t.trim.trim = t.trim := by
  have htrim : t.trim.trim = ofPieces (trimPieces (pieces t.trim)) := rfl
  rw [htrim, pieces_trim, trimPieces_trimPieces]
  rfl

/-- A trimmed text stands somewhere in the text. -/
theorem trim_split (t : Text) : ∃ front back, t = front ++ (t.trim ++ back) := by
  obtain ⟨front, back, hsplit, _⟩ := trimPieces_split t.pieces
  refine ⟨ofPieces front, ofPieces back, ?_⟩
  have htext := congrArg ofPieces hsplit
  rw [ofPieces_pieces] at htext
  simpa only [ofPieces, List.flatMap_append, trim] using htext

theorem mem_of_mem_trim {t : Text} {b : UInt8} (h : b ∈ t.trim) : b ∈ t := by
  rcases trim_split t with ⟨front, back, hsplit⟩
  rw [hsplit]
  exact List.mem_append_right front (List.mem_append_left back h)

theorem length_trim_le (t : Text) : t.trim.length ≤ t.length := by
  rcases trim_split t with ⟨front, back, hsplit⟩
  have hlength := congrArg List.length hsplit
  rw [List.length_append, List.length_append] at hlength
  omega

/-- Whether a byte is white space of the basic alphabet. -/
def IsBlankByte (b : UInt8) : Prop :=
  b < 0x80 ∧ SyntaxPlayground.isBlank b.toNat = true

theorem pieces_singleton {b : UInt8} (hb : b < 0x80) : pieces [b] = [⟨[b], b.toNat⟩] := by
  have hwhole := isWhole_basic hb []
  exact hwhole

/-- White space at the end does not count. -/
theorem trim_append_blank {b : UInt8} (hb : IsBlankByte b) (t : Text) : (t ++ [b]).trim = t.trim := by
  have hblank : Piece.isBlank ⟨[b], b.toNat⟩ = true := hb.2
  have hpieces : trimPieces (t.pieces ++ [⟨[b], b.toNat⟩]) = trimPieces t.pieces := by
    unfold trimPieces
    rw [List.dropWhile_append]
    by_cases hempty : (t.pieces.dropWhile Piece.isBlank).isEmpty = true
    · rw [if_pos hempty, List.dropWhile_cons_of_pos hblank, List.isEmpty_iff.mp hempty]
      rfl
    · rw [if_neg hempty, List.reverse_append, List.reverse_singleton, List.singleton_append,
        List.dropWhile_cons_of_pos hblank]
  unfold trim
  rw [pieces_append_of_lt hb.1, pieces_singleton hb.1, hpieces]

/-- White space at the beginning does not count. -/
theorem trim_cons_blank {b : UInt8} (hb : IsBlankByte b) (t : Text) : trim (b :: t) = t.trim := by
  have hblank : Piece.isBlank ⟨[b], b.toNat⟩ = true := hb.2
  have hpieces : pieces (b :: t) = ⟨[b], b.toNat⟩ :: pieces t := isWhole_basic hb.1 t
  unfold trim trimPieces
  rw [hpieces, List.dropWhile_cons_of_pos hblank]

/-- A trimmed text does not end with white space of the basic alphabet. -/
theorem ne_append_blank {t : Text} (ht : t.trim = t) {b : UInt8} (hb : IsBlankByte b) (u : Text) :
    t ≠ u ++ [b] := by
  intro heq
  have hlength := length_trim_le u
  rw [← trim_append_blank hb u, ← heq, ht, heq, List.length_append, List.length_singleton] at hlength
  omega

/-- A trimmed text does not begin with white space of the basic alphabet. -/
theorem ne_cons_blank {t : Text} (ht : t.trim = t) {b : UInt8} (hb : IsBlankByte b) (u : Text) :
    t ≠ b :: u := by
  intro heq
  have hlength := length_trim_le u
  rw [← trim_cons_blank hb u, ← heq, ht, heq, List.length_cons] at hlength
  omega

theorem exists_of_mem_pieces {t : Text} (ht : ∀ b ∈ t, b < 0x80) {p : Piece} (hp : p ∈ pieces t) :
    ∃ b ∈ t, p = ⟨[b], b.toNat⟩ := by
  induction t with
  | nil => exact absurd hp List.not_mem_nil
  | cons b t ih =>
    have hpieces : pieces (b :: t) = ⟨[b], b.toNat⟩ :: pieces t :=
      isWhole_basic (ht b List.mem_cons_self) t
    rw [hpieces] at hp
    rcases List.mem_cons.mp hp with rfl | hp
    · exact ⟨b, List.mem_cons_self, rfl⟩
    · rcases ih (fun c hc => ht c (List.mem_cons_of_mem b hc)) hp with ⟨c, hc, rfl⟩
      exact ⟨c, List.mem_cons_of_mem b hc, rfl⟩

/-- Basic text without white space has nothing to trim. -/
theorem trim_eq_self {t : Text}
    (ht : ∀ b ∈ t, b < 0x80 ∧ SyntaxPlayground.isBlank b.toNat = false) : t.trim = t := by
  have hnone : ∀ p ∈ pieces t, Piece.isBlank p = false := by
    intro p hp
    rcases exists_of_mem_pieces (fun b hb => (ht b hb).1) hp with ⟨b, hb, rfl⟩
    exact (ht b hb).2
  have hself : ∀ ps : List Piece, (∀ p ∈ ps, p ∈ pieces t) → ps.dropWhile Piece.isBlank = ps := by
    intro ps hps
    rw [List.dropWhile_eq_self_iff]
    intro hpos
    exact Bool.eq_false_iff.mp (hnone _ (hps _ (List.getElem_mem hpos)))
  unfold trim trimPieces
  -- nothing is dropped in front, and nothing from behind either
  rw [hself _ fun _ h => h, hself _ fun _ h => List.mem_reverse.mp h, List.reverse_reverse,
    ofPieces_pieces]

end Text

end SyntaxPlayground
