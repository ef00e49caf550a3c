import SyntaxPlayground.Proofs.Text.Pieces

/-!
# Pieces that are characters

A piece of a text is a character or a byte that starts none. `isCharacter_of_mem_pieces` says that the
bytes of a character are its UTF-8 sequence, so nothing is lost when only its code point is kept, and
`isWhole_encodeScalar` that such a sequence is always one piece. A text in which every piece is a character
stays as it is when it is repaired (`repaired_of_isUtf8`).
-/

namespace SyntaxPlayground

/-- The piece is a character: its bytes are the UTF-8 sequence of its code point. -/
structure Piece.IsCharacter (p : Piece) : Prop where
  bytes : p.bytes = encodeScalar p.scalar
  notSurrogate : ¬ (0xD800 ≤ p.scalar ∧ p.scalar ≤ 0xDFFF)
  inRange : p.scalar ≤ 0x10FFFF

/-! ## Sequences and code points -/

section Sequences

variable {n : Nat}

theorem encodeScalar_one (h : n < 0x80) : encodeScalar n = [n.toUInt8] := by
  rw [encodeScalar, if_pos h]

theorem encodeScalar_two (hlow : 0x80 ≤ n) (h : n < 0x800) :
    encodeScalar n = [(0xC0 + n / 64).toUInt8, (0x80 + n % 64).toUInt8] := by
  rw [encodeScalar, if_neg (by omega), if_pos h]

theorem encodeScalar_three (hlow : 0x800 ≤ n) (hsurrogate : ¬ (0xD800 ≤ n ∧ n ≤ 0xDFFF))
    (h : n < 0x10000) :
    encodeScalar n =
      [(0xE0 + n / 4096).toUInt8, (0x80 + n / 64 % 64).toUInt8, (0x80 + n % 64).toUInt8] := by
  rw [encodeScalar, if_neg (by omega), if_neg (by omega), if_neg (by omega), if_pos h]

theorem encodeScalar_four (hlow : 0x10000 ≤ n) (h : n ≤ 0x10FFFF) :
    encodeScalar n =
      [(0xF0 + n / 262144).toUInt8, (0x80 + n / 4096 % 64).toUInt8, (0x80 + n / 64 % 64).toUInt8,
        (0x80 + n % 64).toUInt8] := by
  rw [encodeScalar, if_neg (by omega), if_neg (by omega), if_neg (by omega), if_neg (by omega)]

end Sequences

namespace Text

variable {a b c d : UInt8}

theorem eq_toUInt8 {b : UInt8} {n : Nat} (h : n = b.toNat) : b = n.toUInt8 := by
  rw [h]
  exact UInt8.ofNat_toNat.symm

/-! ## The forms of a character -/

theorem isCharacter_basic (h : a < 0x80) : Piece.IsCharacter ⟨[a], a.toNat⟩ := by
  have hn : a.toNat < 0x80 := UInt8.lt_iff_toNat_lt.mp h
  have hbytes : [a] = encodeScalar a.toNat := by
    rw [encodeScalar_one hn, ← eq_toUInt8 rfl]
  have hsurrogate : ¬ (0xD800 ≤ a.toNat ∧ a.toNat ≤ 0xDFFF) := by omega
  have hrange : a.toNat ≤ 0x10FFFF := by omega
  exact ⟨hbytes, hsurrogate, hrange⟩

theorem isCharacter_pair (h : isPair a b = true) :
    Piece.IsCharacter ⟨[a, b], a.toNat % 32 * 64 + lowBits b⟩ := by
  rw [isPair_iff] at h
  generalize hn : a.toNat % 32 * 64 + lowBits b = n
  unfold lowBits at hn
  have ha : a = (0xC0 + n / 64).toUInt8 := eq_toUInt8 (by omega)
  have hb : b = (0x80 + n % 64).toUInt8 := eq_toUInt8 (by omega)
  have hbytes : [a, b] = encodeScalar n := by
    rw [encodeScalar_two (by omega) (by omega), ← ha, ← hb]
  have hsurrogate : ¬ (0xD800 ≤ n ∧ n ≤ 0xDFFF) := by omega
  have hrange : n ≤ 0x10FFFF := by omega
  exact ⟨hbytes, hsurrogate, hrange⟩

theorem isCharacter_triple (h : opensTriple a b = true) (h' : isContinuation c = true) :
    Piece.IsCharacter ⟨[a, b, c], a.toNat % 16 * 4096 + lowBits b * 64 + lowBits c⟩ := by
  rw [opensTriple_iff] at h
  rw [isContinuation_iff] at h'
  generalize hn : a.toNat % 16 * 4096 + lowBits b * 64 + lowBits c = n
  unfold lowBits at hn
  have ha : a = (0xE0 + n / 4096).toUInt8 := eq_toUInt8 (by omega)
  have hb : b = (0x80 + n / 64 % 64).toUInt8 := eq_toUInt8 (by omega)
  have hc : c = (0x80 + n % 64).toUInt8 := eq_toUInt8 (by omega)
  have hsurrogate : ¬ (0xD800 ≤ n ∧ n ≤ 0xDFFF) := by omega
  have hbytes : [a, b, c] = encodeScalar n := by
    rw [encodeScalar_three (by omega) hsurrogate (by omega), ← ha, ← hb, ← hc]
  have hrange : n ≤ 0x10FFFF := by omega
  exact ⟨hbytes, hsurrogate, hrange⟩

theorem isCharacter_quad (h : opensQuad a b = true) (h' : isContinuation c = true)
    (h'' : isContinuation d = true) :
    Piece.IsCharacter
      ⟨[a, b, c, d], a.toNat % 8 * 262144 + lowBits b * 4096 + lowBits c * 64 + lowBits d⟩ := by
  rw [opensQuad_iff] at h
  rw [isContinuation_iff] at h' h''
  generalize hn : a.toNat % 8 * 262144 + lowBits b * 4096 + lowBits c * 64 + lowBits d = n
  unfold lowBits at hn
  have ha : a = (0xF0 + n / 262144).toUInt8 := eq_toUInt8 (by omega)
  have hb : b = (0x80 + n / 4096 % 64).toUInt8 := eq_toUInt8 (by omega)
  have hc : c = (0x80 + n / 64 % 64).toUInt8 := eq_toUInt8 (by omega)
  have hd : d = (0x80 + n % 64).toUInt8 := eq_toUInt8 (by omega)
  have hrange : n ≤ 0x10FFFF := by omega
  have hbytes : [a, b, c, d] = encodeScalar n := by
    rw [encodeScalar_four (by omega) hrange, ← ha, ← hb, ← hc, ← hd]
  have hsurrogate : ¬ (0xD800 ≤ n ∧ n ≤ 0xDFFF) := by omega
  exact ⟨hbytes, hsurrogate, hrange⟩

/-- Every piece is a character or a byte that starts none. -/
theorem isCharacter_or_isIll (t : Text) : ∀ p ∈ pieces t, p.IsCharacter ∨ ∃ b, p = Piece.ill b := by
  fun_induction pieces t with
  | case1 => exact fun p hp => absurd hp List.not_mem_nil
  | case2 a t hbasic ih => exact List.forall_mem_cons.mpr ⟨Or.inl (isCharacter_basic hbasic), ih⟩
  | case3 a hbasic => exact List.forall_mem_singleton.mpr (Or.inr ⟨a, rfl⟩)
  | case4 a hbasic b u hpair ih => exact List.forall_mem_cons.mpr ⟨Or.inl (isCharacter_pair hpair), ih⟩
  | case5 a hbasic b hpair ih => exact List.forall_mem_cons.mpr ⟨Or.inr ⟨a, rfl⟩, ih⟩
  | case6 a hbasic b hpair c v htriple ih =>
    rw [Bool.and_eq_true] at htriple
    exact List.forall_mem_cons.mpr ⟨Or.inl (isCharacter_triple htriple.1 htriple.2), ih⟩
  | case7 a hbasic b hpair c htriple ih => exact List.forall_mem_cons.mpr ⟨Or.inr ⟨a, rfl⟩, ih⟩
  | case8 a hbasic b hpair c htriple d w hquad ih =>
    rw [Bool.and_eq_true, Bool.and_eq_true] at hquad
    exact List.forall_mem_cons.mpr ⟨Or.inl (isCharacter_quad hquad.1.1 hquad.1.2 hquad.2), ih⟩
  | case9 a hbasic b hpair c htriple d w hquad ih =>
    exact List.forall_mem_cons.mpr ⟨Or.inr ⟨a, rfl⟩, ih⟩

theorem isUtf8_iff {t : Text} : t.isUtf8 = true ↔ ∀ p ∈ pieces t, p.isIll = false := by
  simp [isUtf8]

/-- In a text of characters every piece is one. -/
theorem isCharacter_of_mem_pieces {t : Text} (ht : t.isUtf8 = true) :
    ∀ p ∈ pieces t, p.IsCharacter := by
  intro p hp
  rcases isCharacter_or_isIll t p hp with hcharacter | ⟨b, rfl⟩
  · exact hcharacter
  · -- the byte is not repaired, so it would be a character
    have hill : (Piece.ill b).isIll = true := rfl
    rw [isUtf8_iff.mp ht _ hp] at hill
    cases hill

/-- A text of characters needs no repair. -/
theorem repaired_of_isUtf8 {t : Text} (ht : t.isUtf8 = true) : t.repaired = t := by
  have hbytes : t.repaired = ofPieces t.pieces := by
    apply List.flatMap_congr
    intro p hp
    rw [isUtf8_iff.mp ht p hp, if_neg Bool.false_ne_true]
  rw [hbytes, ofPieces_pieces]

/-- A text of the basic alphabet is a text of characters, one for each byte. -/
theorem pieces_of_basic {t : Text} (ht : ∀ b ∈ t, b < 0x80) :
    pieces t = t.map fun b => ⟨[b], b.toNat⟩ := by
  induction t with
  | nil => rfl
  | cons b t ih =>
    have hpieces : pieces (b :: t) = ⟨[b], b.toNat⟩ :: pieces t :=
      isWhole_basic (ht b List.mem_cons_self) t
    rw [hpieces, ih fun c hc => ht c (List.mem_cons_of_mem b hc), List.map_cons]

theorem isUtf8_of_basic {t : Text} (ht : ∀ b ∈ t, b < 0x80) : t.isUtf8 = true := by
  rw [isUtf8_iff]
  intro p hp
  obtain ⟨b, hb, rfl⟩ := exists_of_mem_pieces ht hp
  have hlow : b.toNat < 0x80 := UInt8.lt_iff_toNat_lt.mp (ht b hb)
  have hne : b.toNat ≠ replacementScalar := by
    unfold replacementScalar
    omega
  simp [Piece.isIll, hne]

end Text

/-! ## The bytes of a character -/

theorem length_encodeScalar (n : Nat) :
    1 ≤ (encodeScalar n).length ∧ (encodeScalar n).length ≤ 4 := by
  unfold encodeScalar
  split_ifs <;> simp

theorem toNat_toUInt8 {n : Nat} (h : n < 256) : n.toUInt8.toNat = n := by
  rw [Nat.toUInt8_eq, UInt8.toNat_ofNat', Nat.mod_eq_of_lt h]

theorem le_toNat_toUInt8 {n : Nat} (hlow : 0x80 ≤ n) (h : n < 256) : 0x80 ≤ n.toUInt8.toNat := by
  rw [toNat_toUInt8 h]
  exact hlow

/-- A character does not begin with a byte that continues one. -/
theorem exists_cons_encodeScalar (n : Nat) :
    ∃ b t, encodeScalar n = b :: t ∧ Text.isContinuation b = false := by
  unfold encodeScalar
  split_ifs with hbasic htwo hnone hthree
  all_goals
    refine ⟨_, _, rfl, ?_⟩
    rw [Bool.eq_false_iff, ne_eq, Text.isContinuation_iff]
  · rw [toNat_toUInt8 (by omega)]
    omega
  · rw [toNat_toUInt8 (by omega)]
    omega
  · decide
  · rw [toNat_toUInt8 (by omega)]
    omega
  · rw [toNat_toUInt8 (by omega)]
    omega

/-- Beyond the basic alphabet no byte of a character is of the basic alphabet. -/
theorem le_toNat_of_mem_encodeScalar {n : Nat} (hn : 0x80 ≤ n) {b : UInt8} (hb : b ∈ encodeScalar n) :
    0x80 ≤ b.toNat := by
  unfold encodeScalar at hb
  split_ifs at hb with hbasic htwo hnone hthree
  · omega
  all_goals simp only [List.mem_cons, List.not_mem_nil, or_false] at hb
  · rcases hb with rfl | rfl
    · exact le_toNat_toUInt8 (by omega) (by omega)
    · exact le_toNat_toUInt8 (by omega) (by omega)
  · rcases hb with rfl | rfl | rfl
    · decide
    · decide
    · decide
  · rcases hb with rfl | rfl | rfl
    · exact le_toNat_toUInt8 (by omega) (by omega)
    · exact le_toNat_toUInt8 (by omega) (by omega)
    · exact le_toNat_toUInt8 (by omega) (by omega)
  · rcases hb with rfl | rfl | rfl | rfl
    · exact le_toNat_toUInt8 (by omega) (by omega)
    · exact le_toNat_toUInt8 (by omega) (by omega)
    · exact le_toNat_toUInt8 (by omega) (by omega)
    · exact le_toNat_toUInt8 (by omega) (by omega)

/-! ## Characters as pieces -/

section Whole

open Text

variable {n : Nat}

theorem not_basic {a : UInt8} (h : 0x80 ≤ a.toNat) : ¬ a < 0x80 := by
  rw [UInt8.lt_iff_toNat_lt]
  exact Nat.not_lt.mpr h

theorem isWhole_encodeScalar_one (h : n < 0x80) : IsWhole ⟨encodeScalar n, n⟩ := by
  have hbyte := toNat_toUInt8 (n := n) (by omega)
  have hbasic : n.toUInt8 < 0x80 := by
    rw [UInt8.lt_iff_toNat_lt, hbyte]
    exact h
  have hwhole := isWhole_basic hbasic
  rwa [hbyte, ← encodeScalar_one h] at hwhole

theorem isWhole_encodeScalar_two (hlow : 0x80 ≤ n) (h : n < 0x800) :
    IsWhole ⟨encodeScalar n, n⟩ := by
  rw [encodeScalar_two hlow h]
  have ha := toNat_toUInt8 (n := 0xC0 + n / 64) (by omega)
  have hb := toNat_toUInt8 (n := 0x80 + n % 64) (by omega)
  generalize (0xC0 + n / 64).toUInt8 = a at ha ⊢
  generalize (0x80 + n % 64).toUInt8 = b at hb ⊢
  have hpair : isPair a b = true := isPair_iff.mpr (by omega)
  have hwhole := isWhole_pair (not_basic (by omega)) hpair
  have hscalar : a.toNat % 32 * 64 + lowBits b = n := by
    unfold lowBits
    omega
  rwa [hscalar] at hwhole

theorem isWhole_encodeScalar_three (hlow : 0x800 ≤ n) (hsurrogate : ¬ (0xD800 ≤ n ∧ n ≤ 0xDFFF))
    (h : n < 0x10000) : IsWhole ⟨encodeScalar n, n⟩ := by
  rw [encodeScalar_three hlow hsurrogate h]
  have ha := toNat_toUInt8 (n := 0xE0 + n / 4096) (by omega)
  have hb := toNat_toUInt8 (n := 0x80 + n / 64 % 64) (by omega)
  have hc := toNat_toUInt8 (n := 0x80 + n % 64) (by omega)
  generalize (0xE0 + n / 4096).toUInt8 = a at ha ⊢
  generalize (0x80 + n / 64 % 64).toUInt8 = b at hb ⊢
  generalize (0x80 + n % 64).toUInt8 = c at hc ⊢
  have hpair : ¬ isPair a b = true := by
    rw [isPair_iff]
    omega
  have htriple : (opensTriple a b && isContinuation c) = true := by
    rw [Bool.and_eq_true, opensTriple_iff, isContinuation_iff]
    omega
  have hwhole := isWhole_triple (not_basic (by omega)) hpair htriple
  have hscalar : a.toNat % 16 * 4096 + lowBits b * 64 + lowBits c = n := by
    unfold lowBits
    omega
  rwa [hscalar] at hwhole

theorem isWhole_encodeScalar_four (hlow : 0x10000 ≤ n) (h : n ≤ 0x10FFFF) :
    IsWhole ⟨encodeScalar n, n⟩ := by
  rw [encodeScalar_four hlow h]
  have ha := toNat_toUInt8 (n := 0xF0 + n / 262144) (by omega)
  have hb := toNat_toUInt8 (n := 0x80 + n / 4096 % 64) (by omega)
  have hc := toNat_toUInt8 (n := 0x80 + n / 64 % 64) (by omega)
  have hd := toNat_toUInt8 (n := 0x80 + n % 64) (by omega)
  generalize (0xF0 + n / 262144).toUInt8 = a at ha ⊢
  generalize (0x80 + n / 4096 % 64).toUInt8 = b at hb ⊢
  generalize (0x80 + n / 64 % 64).toUInt8 = c at hc ⊢
  generalize (0x80 + n % 64).toUInt8 = d at hd ⊢
  have hpair : ¬ isPair a b = true := by
    rw [isPair_iff]
    omega
  have htriple : ¬ (opensTriple a b && isContinuation c) = true := by
    rw [Bool.and_eq_true, opensTriple_iff]
    omega
  have hquad : (opensQuad a b && isContinuation c && isContinuation d) = true := by
    rw [Bool.and_eq_true, Bool.and_eq_true, opensQuad_iff, isContinuation_iff, isContinuation_iff]
    omega
  have hwhole := isWhole_quad (not_basic (by omega)) hpair htriple hquad
  have hscalar :
      a.toNat % 8 * 262144 + lowBits b * 4096 + lowBits c * 64 + lowBits d = n := by
    unfold lowBits
    omega
  rwa [hscalar] at hwhole

/-- The UTF-8 sequence of a code point is one piece, whatever follows it. -/
theorem isWhole_encodeScalar (hsurrogate : ¬ (0xD800 ≤ n ∧ n ≤ 0xDFFF)) (h : n ≤ 0x10FFFF) :
    IsWhole ⟨encodeScalar n, n⟩ := by
  by_cases hone : n < 0x80
  · exact isWhole_encodeScalar_one hone
  · by_cases htwo : n < 0x800
    · exact isWhole_encodeScalar_two (by omega) htwo
    · by_cases hthree : n < 0x10000
      · exact isWhole_encodeScalar_three (by omega) hsurrogate hthree
      · exact isWhole_encodeScalar_four (by omega) h

end Whole

namespace Piece.IsCharacter

variable {p : Piece} (hp : p.IsCharacter)
include hp

/-- A character of the basic alphabet is one byte. -/
theorem bytes_of_lt (h : p.scalar < 0x80) : p.bytes = [p.scalar.toUInt8] := by
  rw [hp.bytes, encodeScalar_one h]

theorem isIll_eq_false : p.isIll = false := by
  rw [isIll, Bool.and_eq_false_iff, beq_eq_false_iff_ne, beq_eq_false_iff_ne]
  by_cases hscalar : p.scalar = replacementScalar
  · right
    rw [hp.bytes, hscalar]
    decide
  · exact Or.inl hscalar

theorem le_toNat_of_mem (h : 0x80 ≤ p.scalar) {b : UInt8} (hb : b ∈ p.bytes) : 0x80 ≤ b.toNat := by
  rw [hp.bytes] at hb
  exact le_toNat_of_mem_encodeScalar h hb

theorem length_bytes : 1 ≤ p.bytes.length ∧ p.bytes.length ≤ 4 := by
  rw [hp.bytes]
  exact length_encodeScalar p.scalar

end Piece.IsCharacter

end SyntaxPlayground
