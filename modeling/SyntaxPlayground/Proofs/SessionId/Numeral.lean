import Mathlib.Data.List.GetD
import Mathlib.Data.Nat.Digits.Lemmas
import SyntaxPlayground.SessionId

/-!
# Identifiers as numerals

An identifier is the number that its 16 bytes stand for, written to the base 32. The loop that writes it
keeps the bits read last in a word of 32 bits, whose high bits overflow all the time; of the word it only
uses the bits that are still to be written. `Written` says what a part of the loop has done: the characters
written and the bits left over together stand for the number that was to be written. Parts of the loop join
at the bits left over (`Written.append`), and 130 bits leave none.

Digits sort like their characters, for the alphabet is sorted. So texts of one length sort like the numbers
that they stand for, whatever the base (`Text.IsDigits.lt_iff_valueOf_lt`), and this carries the order of the
bytes over to the identifiers.
-/

namespace SyntaxPlayground

/-! ## Texts as numbers -/

namespace Text

/-- The number that a text stands for: its bytes are digits with the given values, the most significant
first. -/
def valueOf (base : Nat) (digit : UInt8 → Nat) (t : Text) : Nat :=
  Nat.ofDigits base (t.map digit).reverse

section Value

variable {base : Nat} {digit : UInt8 → Nat}

theorem valueOf_append (s t : Text) :
    valueOf base digit (s ++ t) = valueOf base digit s * base ^ t.length + valueOf base digit t := by
  unfold valueOf
  rw [List.map_append, List.reverse_append, Nat.ofDigits_append, List.length_reverse, List.length_map,
    Nat.add_comm, Nat.mul_comm]

theorem valueOf_cons (b : UInt8) (t : Text) :
    valueOf base digit (b :: t) = digit b * base ^ t.length + valueOf base digit t := by
  unfold valueOf
  rw [List.map_cons, Nat.ofDigits_reverse_cons, List.length_map, Nat.add_comm, Nat.mul_comm]

/-- The bytes of `digits` are the digits to some base: their values fit it, and greater digits have
greater values. -/
structure IsDigits (base : Nat) (digit : UInt8 → Nat) (digits : Set UInt8) : Prop where
  base_gt : 1 < base
  lt : ∀ b ∈ digits, digit b < base
  mono : ∀ a ∈ digits, ∀ b ∈ digits, a < b → digit a < digit b

variable {digits : Set UInt8} {s t : Text}

theorem IsDigits.valueOf_lt (h : IsDigits base digit digits) (ht : ∀ b ∈ t, b ∈ digits) :
    valueOf base digit t < base ^ t.length := by
  have hlt : ∀ d ∈ (t.map digit).reverse, d < base := by
    intro d hd
    rcases List.mem_map.mp (List.mem_reverse.mp hd) with ⟨b, hb, rfl⟩
    exact h.lt b (ht b hb)
  have hvalue := Nat.ofDigits_lt_base_pow_length h.base_gt hlt
  rwa [List.length_reverse, List.length_map] at hvalue

/-- Of two texts of one length the lesser stands for the lesser number. -/
theorem IsDigits.valueOf_lt_valueOf (h : IsDigits base digit digits) (hs : ∀ b ∈ s, b ∈ digits)
    (ht : ∀ b ∈ t, b ∈ digits) (hlength : s.length = t.length) (hlt : s < t) :
    valueOf base digit s < valueOf base digit t := by
  induction s generalizing t with
  | nil =>
    rw [List.length_eq_zero_iff.mp hlength.symm] at hlt
    exact absurd hlt (List.lt_irrefl [])
  | cons a s ih =>
    cases t with
    | nil => exact absurd hlt (List.not_lt_nil _)
    | cons b t =>
      have hs' : ∀ c ∈ s, c ∈ digits := fun c hc => hs c (List.mem_cons_of_mem a hc)
      have ht' : ∀ c ∈ t, c ∈ digits := fun c hc => ht c (List.mem_cons_of_mem b hc)
      have hlength' : s.length = t.length := Nat.succ.inj hlength
      rw [valueOf_cons, valueOf_cons, hlength']
      rcases List.cons_lt_cons_iff.mp hlt with hab | ⟨rfl, hlt'⟩
      · -- the first digits differ, and what follows them is too small to make up for it
        have hdigit : digit a + 1 ≤ digit b :=
          h.mono a (hs a List.mem_cons_self) b (ht b List.mem_cons_self) hab
        have hsmall := h.valueOf_lt hs'
        rw [hlength'] at hsmall
        calc digit a * base ^ t.length + valueOf base digit s
            < (digit a + 1) * base ^ t.length := by rw [Nat.add_mul, Nat.one_mul]; omega
          _ ≤ digit b * base ^ t.length := Nat.mul_le_mul_right _ hdigit
          _ ≤ digit b * base ^ t.length + valueOf base digit t := Nat.le_add_right _ _
      · exact Nat.add_lt_add_left (ih hs' ht' hlength' hlt') _

/-- Texts of one length sort like the numbers that they stand for. -/
theorem IsDigits.lt_iff_valueOf_lt (h : IsDigits base digit digits) (hs : ∀ b ∈ s, b ∈ digits)
    (ht : ∀ b ∈ t, b ∈ digits) (hlength : s.length = t.length) :
    s < t ↔ valueOf base digit s < valueOf base digit t := by
  constructor
  · exact h.valueOf_lt_valueOf hs ht hlength
  · intro hvalue
    rcases Std.lt_trichotomy s t with hlt | rfl | hgt
    · exact hlt
    · exact absurd hvalue (Nat.lt_irrefl _)
    · have hgreater := h.valueOf_lt_valueOf ht hs hlength.symm hgt
      omega

/-- Texts of one length that stand for one number are the same. -/
theorem IsDigits.eq_of_valueOf_eq (h : IsDigits base digit digits) (hs : ∀ b ∈ s, b ∈ digits)
    (ht : ∀ b ∈ t, b ∈ digits) (hlength : s.length = t.length)
    (heq : valueOf base digit s = valueOf base digit t) : s = t := by
  rcases Std.lt_trichotomy s t with hlt | rfl | hgt
  · have hless := h.valueOf_lt_valueOf hs ht hlength hlt
    omega
  · rfl
  · have hgreater := h.valueOf_lt_valueOf ht hs hlength.symm hgt
    omega

end Value

theorem isDigits_bytes : IsDigits 256 UInt8.toNat Set.univ := by
  refine ⟨by omega, ?_, ?_⟩
  · intro b _
    exact b.toNat_lt
  · intro a _ b _ hab
    exact UInt8.lt_iff_toNat_lt.mp hab

end Text

namespace SessionId

open Text

/-! ## The alphabet -/

theorem length_alphabet : alphabet.length = 32 := by
  decide

theorem sorted_alphabet : alphabet.Pairwise (· < ·) := by
  decide

/-- The value of a character: its place in the alphabet. -/
def digitValue (c : UInt8) : Nat :=
  alphabet.idxOf c

/-- The number that an identifier stands for. -/
def value (id : Text) : Nat :=
  valueOf 32 digitValue id

/-- The number that some bytes stand for, the most significant first. -/
def number (bytes : List UInt8) : Nat :=
  valueOf 256 UInt8.toNat bytes

theorem isDigits_alphabet : IsDigits 32 digitValue {c | c ∈ alphabet} := by
  have hplace : ∀ c ∈ alphabet, alphabet.idxOf c < alphabet.length := by
    intro c hc
    exact List.idxOf_lt_length_of_mem hc
  refine ⟨by omega, ?_, ?_⟩
  · intro c hc
    rw [← length_alphabet]
    exact hplace c hc
  · intro c hc d hd hcd
    -- were `d` in the place of `c` or before it, it would be no greater, for the alphabet is sorted
    rcases Nat.lt_trichotomy (digitValue c) (digitValue d) with hlt | heq | hgt
    · exact hlt
    · have hsame : c = d := (List.idxOf_inj hc).mp heq
      exact absurd (hsame ▸ hcd) (UInt8.lt_irrefl d)
    · have hdc := List.pairwise_iff_getElem.mp sorted_alphabet _ _ (hplace d hd) (hplace c hc) hgt
      rw [List.getElem_idxOf, List.getElem_idxOf] at hdc
      exact absurd hcd (UInt8.lt_asymm hdc)

theorem exists_digit_eq (word : UInt32) :
    ∃ h : word.toNat % 32 < alphabet.length, digit word = alphabet[word.toNat % 32] := by
  have hplace : word.toNat % 32 < alphabet.length := by
    rw [length_alphabet]
    exact Nat.mod_lt _ (by omega)
  refine ⟨hplace, ?_⟩
  unfold digit
  rw [UInt32.toNat_and, show (31 : UInt32).toNat = 2 ^ 5 - 1 by decide, Nat.and_two_pow_sub_one_eq_mod]
  exact List.getD_eq_getElem _ _ hplace

theorem digit_mem (word : UInt32) : digit word ∈ alphabet := by
  rcases exists_digit_eq word with ⟨hplace, hdigit⟩
  rw [hdigit]
  exact List.getElem_mem hplace

theorem digitValue_digit (word : UInt32) : digitValue (digit word) = word.toNat % 32 := by
  rcases exists_digit_eq word with ⟨hplace, hdigit⟩
  rw [hdigit]
  exact sorted_alphabet.nodup.idxOf_getElem _ hplace

/-! ## The loop -/

/-- `Written total bits t left low`: of a number of so many bits the characters `t` are written, and its
last `left` bits are not; these are the number `low`. -/
structure Written (total bits : Nat) (t : Text) (left low : Nat) : Prop where
  length : 5 * t.length + left = bits
  left_lt : left < 5
  low_lt : low < 2 ^ left
  value_eq : total = value t * 2 ^ left + low
  mem : ∀ c ∈ t, c ∈ alphabet

variable {total bits left low : Nat} {t : Text}

theorem thirtyTwo_pow_mul (n m : Nat) : 32 ^ n * 2 ^ m = 2 ^ (5 * n + m) := by
  rw [Nat.pow_add, Nat.pow_mul]

/-- What the bits left over begin, the next part of the loop goes on with. -/
theorem Written.append {rest more left' low' : Nat} {t' : Text} (h : Written total bits t left low)
    (h' : Written (low * 2 ^ more + rest) (left + more) t' left' low') :
    Written (total * 2 ^ more + rest) (bits + more) (t ++ t') left' low' := by
  have hlength := h.length
  have hlength' := h'.length
  refine ⟨?_, h'.left_lt, h'.low_lt, ?_, ?_⟩
  · rw [List.length_append]
    omega
  · have hpow : 32 ^ t'.length * 2 ^ left' = 2 ^ left * 2 ^ more := by
      rw [thirtyTwo_pow_mul, hlength', Nat.pow_add]
    calc total * 2 ^ more + rest
        = value t * (2 ^ left * 2 ^ more) + (low * 2 ^ more + rest) := by rw [h.value_eq]; ring
      _ = value t * (32 ^ t'.length * 2 ^ left') + (value t' * 2 ^ left' + low') := by
        rw [hpow, h'.value_eq]
      _ = value (t ++ t') * 2 ^ left' + low' := by
        unfold value
        rw [valueOf_append]
        ring
  · intro c hc
    rcases List.mem_append.mp hc with hc | hc
    · exact h.mem c hc
    · exact h'.mem c hc

/-- A character that comes first. -/
theorem Written.cons {c : UInt8} (h : Written total bits t left low) (hc : c ∈ alphabet) :
    Written (digitValue c * 2 ^ bits + total) (bits + 5) (c :: t) left low := by
  have hlength := h.length
  refine ⟨?_, h.left_lt, h.low_lt, ?_, ?_⟩
  · rw [List.length_cons]
    omega
  · unfold value
    rw [valueOf_cons, h.value_eq, ← hlength, ← thirtyTwo_pow_mul]
    unfold value
    ring
  · intro d hd
    rcases List.mem_cons.mp hd with rfl | hd
    · exact hc
    · exact h.mem d hd

theorem Written.div_eq (h : Written total bits t left low) : total / 2 ^ left = value t := by
  rw [h.value_eq, Nat.mul_comm, Nat.mul_add_div (Nat.two_pow_pos left), Nat.div_eq_of_lt h.low_lt,
    Nat.add_zero]

/-- The characters written for a number are determined. -/
theorem Written.unique {left' low' : Nat} {t' : Text} (h : Written total bits t left low)
    (h' : Written total bits t' left' low') : t = t' := by
  have hlength := h.length
  have hlength' := h'.length
  have hlt := h.left_lt
  have hlt' := h'.left_lt
  obtain rfl : left = left' := by omega
  have hvalue : value t = value t' := by rw [← h.div_eq, h'.div_eq]
  exact isDigits_alphabet.eq_of_valueOf_eq h.mem h'.mem (by omega) hvalue

theorem drain_add_five (word : UInt32) (n : Nat) : drain word (n + 5) =
    (digit (word >>> n.toUInt32) :: (drain word n).1, (drain word n).2) :=
  rfl

/-- Draining a word writes what it has bits for. -/
theorem written_drain (word : UInt32) {n : Nat} (hn : n ≤ 32) :
    Written (word.toNat % 2 ^ n) n (drain word n).1 (drain word n).2
      (word.toNat % 2 ^ (drain word n).2) := by
  induction n using drain.induct word with
  | case1 n t left _ ih =>
    have hshift : (word >>> n.toUInt32).toNat = word.toNat / 2 ^ n := by
      have hfit : n.toUInt32.toNat % 32 = n := by
        rw [Nat.toUInt32, UInt32.toNat_ofNat']
        omega
      rw [UInt32.toNat_shiftRight, hfit, Nat.shiftRight_eq_div_pow]
    have hnumber : word.toNat % 2 ^ (n + 5) =
        digitValue (digit (word >>> n.toUInt32)) * 2 ^ n + word.toNat % 2 ^ n := by
      rw [digitValue_digit, hshift, Nat.pow_add, Nat.mod_mul, Nat.mul_comm, Nat.add_comm]
    rw [drain_add_five, hnumber]
    exact (ih (by omega)).cons (digit_mem _)
  | case2 n hsmall =>
    have hlt : n < 5 := by
      by_contra hge
      exact hsmall (n - 5) (by omega)
    have hdrain : drain word n = ([], n) := by
      unfold drain
      split
      · omega
      · rfl
    rw [hdrain]
    refine ⟨by simp, hlt, Nat.mod_lt _ (Nat.two_pow_pos n), ?_, ?_⟩
    · simp [value, valueOf]
    · simp

/-- A byte comes into the word behind the bits that are there. -/
theorem pushed_byte (word : UInt32) (b : UInt8) {n : Nat} (hn : n ≤ 24) :
    (word <<< 8 ||| b.toUInt32).toNat % 2 ^ (n + 8) = word.toNat % 2 ^ n * 2 ^ 8 + b.toNat := by
  have hb : b.toNat < 2 ^ 8 := b.toNat_lt
  have hshifted : (word <<< 8).toNat = 2 ^ 8 * (word.toNat % 2 ^ 24) := by
    rw [UInt32.toNat_shiftLeft, show (8 : UInt32).toNat % 32 = 8 by decide, Nat.shiftLeft_eq,
      Nat.mul_comm, show 2 ^ 32 = 2 ^ 8 * 2 ^ 24 by decide, Nat.mul_mod_mul_left]
  rw [UInt32.toNat_or, UInt8.toNat_toUInt32, hshifted, ← Nat.two_pow_add_eq_or_of_lt hb, Nat.pow_add,
    Nat.mul_comm (2 ^ n), Nat.mod_mul, Nat.mul_add_mod, Nat.mod_eq_of_lt hb,
    Nat.mul_add_div (Nat.two_pow_pos 8), Nat.div_eq_of_lt hb, Nat.add_zero,
    Nat.mod_mod_of_dvd _ (Nat.pow_dvd_pow 2 hn), Nat.add_comm, Nat.mul_comm]

/-- The loop writes the bits that are pending and those of the bytes, but for at most four. -/
theorem written_encodeFrom (word : UInt32) {pending : Nat} (hpending : pending < 5)
    (bytes : List UInt8) : ∃ left low,
      Written (word.toNat % 2 ^ pending * 2 ^ (8 * bytes.length) + number bytes)
        (pending + 8 * bytes.length) (encodeFrom word pending bytes) left low := by
  induction bytes generalizing word pending with
  | nil =>
    refine ⟨pending, word.toNat % 2 ^ pending, ?_, hpending, Nat.mod_lt _ (Nat.two_pow_pos _), ?_, ?_⟩
    · simp [encodeFrom]
    · simp [encodeFrom, value, number, valueOf]
    · simp [encodeFrom]
  | cons b bytes ih =>
    have hdrain := written_drain (word <<< 8 ||| b.toUInt32) (n := pending + 8) (by omega)
    rw [pushed_byte word b (by omega)] at hdrain
    rcases ih (word <<< 8 ||| b.toUInt32) hdrain.left_lt with ⟨left, low, hrest⟩
    refine ⟨left, low, ?_⟩
    have hnumber : word.toNat % 2 ^ pending * 2 ^ (8 * (b :: bytes).length) +
        number (b :: bytes) =
        (word.toNat % 2 ^ pending * 2 ^ 8 + b.toNat) * 2 ^ (8 * bytes.length) +
          number bytes := by
      have hpow : 2 ^ (8 * (bytes.length + 1)) = 2 ^ 8 * 2 ^ (8 * bytes.length) := by
        rw [← Nat.pow_add]
        congr 1
        omega
      unfold number
      rw [valueOf_cons, List.length_cons, hpow, show 256 = 2 ^ 8 by decide, ← Nat.pow_mul]
      ring
    have hbits : pending + 8 * (b :: bytes).length = pending + 8 + 8 * bytes.length := by
      rw [List.length_cons]
      omega
    rw [hnumber, hbits]
    exact hdrain.append hrest

/-- Of the word only the bits that are pending matter: what is dropped from it is never written. -/
theorem encodeFrom_congr {word word' : UInt32} {pending : Nat} (hpending : pending < 5)
    (h : word.toNat % 2 ^ pending = word'.toNat % 2 ^ pending) (bytes : List UInt8) :
    encodeFrom word pending bytes = encodeFrom word' pending bytes := by
  rcases written_encodeFrom word hpending bytes with ⟨_, _, hword⟩
  rcases written_encodeFrom word' hpending bytes with ⟨_, _, hword'⟩
  rw [h] at hword
  exact hword.unique hword'

/-! ## Identifiers -/

/-- What identifiers look like: 26 characters of the alphabet. -/
structure IsIdentifier (id : Text) : Prop where
  length : id.length = 26
  mem : ∀ c ∈ id, c ∈ alphabet

/-- Identifiers sort like the numbers that they stand for. -/
theorem IsIdentifier.lt_iff {id id' : Text} (h : IsIdentifier id) (h' : IsIdentifier id') :
    id < id' ↔ value id < value id' :=
  isDigits_alphabet.lt_iff_valueOf_lt h.mem h'.mem (h.length.trans h'.length.symm)

variable {bytes : List UInt8}

/-- The characters of 16 bytes have room for two bits more, so no bits are left over. -/
theorem written_encode (h : bytes.length = 16) :
    Written (number bytes) 130 (encode bytes) 0 0 := by
  rcases written_encodeFrom 0 (show 2 < 5 by omega) bytes with ⟨left, low, hwritten⟩
  have hlength := hwritten.length
  have hleft := hwritten.left_lt
  have hlow := hwritten.low_lt
  obtain rfl : left = 0 := by omega
  obtain rfl : low = 0 := by omega
  unfold encode
  simpa [h] using hwritten

theorem isIdentifier_encode (h : bytes.length = 16) : IsIdentifier (encode bytes) := by
  have hlength := (written_encode h).length
  exact ⟨by omega, (written_encode h).mem⟩

theorem value_encode (h : bytes.length = 16) : value (encode bytes) = number bytes := by
  have hvalue := (written_encode h).value_eq
  omega

/-- What begins an identifier has only three bits to say. -/
theorem exists_cons_encode (h : bytes.length = 16) :
    ∃ c id, encode bytes = c :: id ∧ c ≤ '7'.toUInt8 := by
  rcases isIdentifier_encode h with ⟨hlength, hmem⟩
  have hvalue := value_encode h
  have hsmall := isDigits_bytes.valueOf_lt (t := bytes) fun b _ => Set.mem_univ b
  cases hid : encode bytes with
  | nil =>
    rw [hid] at hlength
    cases hlength
  | cons c id =>
    refine ⟨c, id, rfl, ?_⟩
    rw [hid] at hlength hmem hvalue
    have hid' : id.length = 25 := Nat.succ.inj hlength
    have hfirst : digitValue c < 8 := by
      unfold value number at hvalue
      rw [valueOf_cons, hid'] at hvalue
      rw [h] at hsmall
      by_contra hge
      have hmul : 8 * 32 ^ 25 ≤ digitValue c * 32 ^ 25 := Nat.mul_le_mul_right _ (by omega)
      have hpow : 8 * 32 ^ 25 = 256 ^ 16 := by decide
      omega
    have hseven : digitValue '7'.toUInt8 = 7 := by decide
    by_contra hgt
    have hlt := isDigits_alphabet.mono '7'.toUInt8 (by decide) c (hmem c List.mem_cons_self)
      (UInt8.not_le.mp hgt)
    omega

/-- An identifier consists of 26 characters of the alphabet, the first at most `7`. They are the number
that the bytes stand for, written to the base 32, and of the word of the loop no bit matters but those that
are pending. So different bytes have different identifiers, and identifiers sort like their bytes. -/
theorem encode_is_ordered_numeral {a : List UInt8} (ha : a.length = 16) :
    (encode a).length = 26 ∧ (∀ c ∈ encode a, c ∈ alphabet) ∧
      value (encode a) = number a ∧ (∃ c id, encode a = c :: id ∧ c ≤ '7'.toUInt8) ∧
      (∀ (word word' : UInt32) (pending : Nat), pending < 5 →
        word.toNat % 2 ^ pending = word'.toNat % 2 ^ pending →
        encodeFrom word pending a = encodeFrom word' pending a) ∧
      ∀ b : List UInt8, b.length = 16 →
        (encode a = encode b → a = b) ∧ (a < b ↔ encode a < encode b) := by
  have hid := isIdentifier_encode ha
  refine ⟨hid.length, hid.mem, value_encode ha, exists_cons_encode ha, ?_, ?_⟩
  · intro word word' pending hpending h
    exact encodeFrom_congr hpending h a
  · intro b hb
    have hlength : a.length = b.length := ha.trans hb.symm
    constructor
    · intro heq
      have hnumber : number a = number b := by
        rw [← value_encode ha, ← value_encode hb, heq]
      exact isDigits_bytes.eq_of_valueOf_eq (fun c _ => Set.mem_univ c) (fun c _ => Set.mem_univ c)
        hlength hnumber
    · have hbytes := isDigits_bytes.lt_iff_valueOf_lt (fun c _ => Set.mem_univ c)
        (fun c _ => Set.mem_univ c) hlength
      calc a < b
          ↔ number a < number b := hbytes
        _ ↔ value (encode a) < value (encode b) := by rw [value_encode ha, value_encode hb]
        _ ↔ encode a < encode b := (hid.lt_iff (isIdentifier_encode hb)).symm

/-- The carry of the bytes falls between two characters: 255 ends with `7Z` and 256 with `80`. -/
theorem encode_is_ordered_numeral_carry :
    encode (List.replicate 15 0 ++ [255]) = utf8 "0000000000000000000000007Z" ∧
      encode (List.replicate 14 0 ++ [1, 0]) = utf8 "00000000000000000000000080" ∧
      encode (List.replicate 15 0 ++ [255]) < encode (List.replicate 14 0 ++ [1, 0]) ∧
      value (encode (List.replicate 15 0 ++ [255])) = 255 := by
  have hnumeral := encode_is_ordered_numeral (a := List.replicate 15 0 ++ [255]) rfl
  rcases hnumeral with ⟨-, -, hvalue, -, -, horder⟩
  rcases horder (List.replicate 14 0 ++ [1, 0]) rfl with ⟨-, hlt⟩
  refine ⟨by decide, by decide, hlt.mp (by decide), ?_⟩
  rw [hvalue]
  decide

end SessionId

end SyntaxPlayground
