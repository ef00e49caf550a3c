import Mathlib.Data.List.Induction
import SyntaxPlayground.Text.Decimal

/-!
# Decimal numbers read back

A number written in decimal is a non-empty string of digits that stands for it. So both readers give
it back as long as it fits a signed 64-bit word, and no two numbers are written alike. The reader of plain
digits takes exactly the numerals that fit (`readDigits?_eq_some_iff`), also those with zeros in front.
-/

namespace SyntaxPlayground

namespace Text

/-! ## Digits -/

theorem isDigit_iff (b : UInt8) : isDigit b = true ↔ 48 ≤ b.toNat ∧ b.toNat ≤ 57 := by
  unfold isDigit
  rw [Bool.and_eq_true, decide_eq_true_eq, decide_eq_true_eq, UInt8.le_iff_toNat_le,
    UInt8.le_iff_toNat_le]
  exact Iff.rfl

/-- A decimal digit as a character has a code that fits a byte. -/
theorem toNat_digit_byte {c : Char} (h : c.isDigit = true) :
    (c.toNat.toUInt8).toNat = c.toNat ∧ 48 ≤ c.toNat ∧ c.toNat ≤ 57 := by
  have hc : 48 ≤ c.toNat ∧ c.toNat ≤ 57 := by
    simp only [Char.isDigit, ge_iff_le, Bool.and_eq_true, decide_eq_true_eq,
      UInt32.le_iff_toNat_le] at h
    exact h
  refine ⟨?_, hc⟩
  have hlt : c.toNat < 256 := by omega
  simp [Nat.toUInt8, Nat.mod_eq_of_lt hlt]

/-- What is written for a number consists of digits. -/
theorem isDigit_of_mem_ofNat {n : Nat} {b : UInt8} (h : b ∈ ofNat n) : isDigit b = true := by
  unfold ofNat at h
  rcases List.mem_map.mp h with ⟨c, hc, rfl⟩
  have hdigit : c.isDigit = true := Nat.isDigit_of_mem_toDigits (by omega) (by omega) hc
  rcases toNat_digit_byte hdigit with ⟨heq, hlo, hhi⟩
  rw [isDigit_iff, heq]
  exact ⟨hlo, hhi⟩

theorem all_isDigit_ofNat (n : Nat) : (ofNat n).all isDigit = true := by
  rw [List.all_eq_true]
  intro b hb
  exact isDigit_of_mem_ofNat hb

theorem ofNat_ne_nil (n : Nat) : ofNat n ≠ [] := by
  unfold ofNat
  intro h
  exact Nat.toDigits_ne_nil (List.map_eq_nil_iff.mp h)

/-! ## The number that digits stand for -/

/-- Bytes of digit characters fold to the number that the characters stand for. -/
theorem foldl_digit_bytes (cs : List Char) (hcs : ∀ c ∈ cs, c.isDigit = true) (start : Nat) :
    (cs.map fun c => c.toNat.toUInt8).foldl (fun n b => 10 * n + (b.toNat - 48)) start =
      Nat.ofDigitChars 10 cs start := by
  induction cs generalizing start with
  | nil => rw [Nat.ofDigitChars_nil]; rfl
  | cons c cs ih =>
    have hc := (toNat_digit_byte (hcs c List.mem_cons_self)).1
    have htail : ∀ d ∈ cs, d.isDigit = true := fun d hd => hcs d (List.mem_cons_of_mem c hd)
    rw [List.map_cons, List.foldl_cons, hc, ih htail, Nat.ofDigitChars_cons]
    rfl

theorem digitsValue_ofNat (n : Nat) : digitsValue (ofNat n) = n := by
  have hdigits : ∀ c ∈ Nat.toDigits 10 n, c.isDigit = true := by
    intro c hc
    exact Nat.isDigit_of_mem_toDigits (by omega) (by omega) hc
  unfold digitsValue ofNat
  rw [foldl_digit_bytes _ hdigits]
  exact Nat.ofDigitChars_ten_toDigits

/-- A non-empty string of decimal digits and the number it stands for. Zeros may stand in front. -/
inductive IsNumeral : Text → Nat → Prop where
  | digit {b : UInt8} (hb : isDigit b = true) : IsNumeral [b] (b.toNat - 48)
  | snoc {t : Text} {n : Nat} {b : UInt8} (ht : IsNumeral t n) (hb : isDigit b = true) :
      IsNumeral (t ++ [b]) (10 * n + (b.toNat - 48))

theorem digitsValue_singleton (b : UInt8) : digitsValue [b] = b.toNat - 48 := by
  unfold digitsValue
  rw [List.foldl_cons, List.foldl_nil, Nat.mul_zero, Nat.zero_add]

theorem digitsValue_append (t : Text) (b : UInt8) :
    digitsValue (t ++ [b]) = 10 * digitsValue t + (b.toNat - 48) := by
  unfold digitsValue
  rw [List.foldl_append]
  rfl

theorem isNumeral_iff {t : Text} {n : Nat} :
    IsNumeral t n ↔ t ≠ [] ∧ (∀ b ∈ t, isDigit b = true) ∧ digitsValue t = n := by
  constructor
  · intro h
    induction h with
    | @digit b hb =>
      exact ⟨List.cons_ne_nil b [], List.forall_mem_singleton.mpr hb, digitsValue_singleton b⟩
    | @snoc t n b ht hb ih =>
      obtain ⟨_, hdigits, hvalue⟩ := ih
      refine ⟨List.concat_ne_nil b t, ?_, ?_⟩
      · exact List.forall_mem_append.mpr ⟨hdigits, List.forall_mem_singleton.mpr hb⟩
      · rw [digitsValue_append, hvalue]
  · rintro ⟨hne, hdigits, rfl⟩
    induction t using List.reverseRecOn with
    | nil => exact absurd rfl hne
    | append_singleton t b ih =>
      have hb : isDigit b = true := hdigits b (List.mem_append_right t List.mem_cons_self)
      cases t with
      | nil =>
        rw [List.nil_append, digitsValue_singleton]
        exact .digit hb
      | cons c t =>
        rw [digitsValue_append]
        apply IsNumeral.snoc _ hb
        apply ih (List.cons_ne_nil c t)
        intro d hd
        exact hdigits d (List.mem_append_left [b] hd)

/-- No two numbers are written alike. -/
theorem ofNat_injective {m n : Nat} (h : ofNat m = ofNat n) : m = n := by
  have hvalue := congrArg digitsValue h
  rwa [digitsValue_ofNat, digitsValue_ofNat] at hvalue

/-! ## The readers -/

/-- The reader of plain digits takes the numerals that fit a signed 64-bit word. -/
theorem readDigits?_eq_some_iff {t : Text} {n : Nat} :
    readDigits? t = some n ↔ IsNumeral t n ∧ (n : Int) ≤ maxInt64 := by
  unfold readDigits?
  rw [isNumeral_iff, Option.ite_none_right_eq_some, Option.some_inj]
  simp only [Bool.and_eq_true, Bool.not_eq_true', List.isEmpty_eq_false_iff, List.all_eq_true,
    decide_eq_true_eq]
  constructor
  · rintro ⟨⟨⟨hne, hdigits⟩, hfits⟩, rfl⟩
    exact ⟨⟨hne, hdigits, rfl⟩, hfits⟩
  · rintro ⟨⟨hne, hdigits, rfl⟩, hfits⟩
    exact ⟨⟨⟨hne, hdigits⟩, hfits⟩, rfl⟩

/-- Plain digits read back. -/
theorem readDigits?_ofNat {n : Nat} (h : (n : Int) ≤ maxInt64) : readDigits? (ofNat n) = some n := by
  have hne : (ofNat n).isEmpty = false := by
    rw [List.isEmpty_eq_false_iff]
    exact ofNat_ne_nil n
  unfold readDigits?
  rw [hne, all_isDigit_ofNat, digitsValue_ofNat]
  simp [h]

/-- The reader of signed numbers gives back what is written without a sign. -/
theorem readInt?_ofNat {n : Nat} (h : (n : Int) ≤ maxInt64) :
    readInt? (ofNat n) = some (n : Int) := by
  have hall := all_isDigit_ofNat n
  have hvalue := digitsValue_ofNat n
  have hlow : minInt64 ≤ (n : Int) := by
    unfold minInt64
    omega
  cases hdigits : ofNat n with
  | nil => exact absurd hdigits (ofNat_ne_nil n)
  | cons b u =>
    have hb : isDigit b = true := isDigit_of_mem_ofNat (n := n) (by rw [hdigits]; exact List.mem_cons_self)
    rw [isDigit_iff] at hb
    -- the first byte is a digit, so it is no sign
    have hplus : b ≠ 43 := by
      rintro rfl
      exact absurd hb.1 (by decide)
    have hminus : b ≠ 45 := by
      rintro rfl
      exact absurd hb.1 (by decide)
    rw [hdigits] at hall hvalue
    simp [readInt?, hplus, hminus, hall, hvalue, hlow, h]

/-- What a non-negative integer is written as. -/
theorem ofInt_of_nonneg {a : Int} (h : 0 ≤ a) : ofInt a = ofNat a.toNat := by
  cases a with
  | ofNat n => rfl
  | negSucc n => exact absurd h (by omega)

/-- Nothing that is written for a number is a NUL. -/
theorem zero_notMem_ofInt (n : Int) : 0 ∉ ofInt n := by
  have hnat : ∀ m : Nat, 0 ∉ ofNat m := by
    intro m hm
    have hdigit := isDigit_of_mem_ofNat hm
    revert hdigit
    decide
  cases n with
  | ofNat m => exact hnat m
  | negSucc m =>
    rw [ofInt, List.mem_cons, not_or]
    exact ⟨by decide, hnat (m + 1)⟩

end Text

end SyntaxPlayground
