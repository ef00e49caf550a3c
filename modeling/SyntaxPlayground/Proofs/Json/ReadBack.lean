import Mathlib.Tactic.IntervalCases
import SyntaxPlayground.Json.Reader
import SyntaxPlayground.Proofs.Text.Character

/-!
# Written strings are read back

A character of a string is written as itself, as a letter after a backslash, or by its code point. However
it is written, the reader passes over it inside the string (`run_writes`) and what it stands for is the
character again (`unescape_writes`). So an object with one text is read back from what is written for it,
up to its last byte (`run_write_textObject`), and takes from one to six bytes for each byte of the text
(`length_writeString`).
-/

namespace SyntaxPlayground

open JsonReader JsonValue

namespace JsonValue

/-! ## How a character is written -/

/-- The characters that are written by their code points. -/
def IsCoded (n : Nat) : Prop :=
  n < 0x20 ∨ n = 60 ∨ n = 62 ∨ n = 38 ∨ n = 0x2028 ∨ n = 0x2029

/-- A code point is written as four hexadecimal digits, which stand for it. -/
theorem exists_code {n : Nat} (h : IsCoded n) :
    ∃ a b c d, utf8 "\\u" ++ Text.ofHex 4 n = [92, 117, a, b, c, d] ∧ code? a b c d = some n := by
  rcases h with h | rfl | rfl | rfl | rfl | rfl
  · interval_cases n <;> exact ⟨_, _, _, _, rfl, rfl⟩
  · exact ⟨_, _, _, _, rfl, rfl⟩
  · exact ⟨_, _, _, _, rfl, rfl⟩
  · exact ⟨_, _, _, _, rfl, rfl⟩
  · exact ⟨_, _, _, _, rfl, rfl⟩
  · exact ⟨_, _, _, _, rfl, rfl⟩

/-- A letter that stands for a character after a backslash. -/
theorem escapeLetter?_eq_some {n : Nat} {letter : UInt8} (h : escapeLetter? n = some letter) :
    n < 0x80 ∧ isEscape letter = true ∧ letter ≠ 117 ∧ escaped letter = n.toUInt8 := by
  unfold escapeLetter? at h
  split at h
  all_goals cases h <;> decide

theorem ne_of_escapeLetter?_eq_none {n : Nat} (h : escapeLetter? n = none) : n ≠ 34 ∧ n ≠ 92 := by
  constructor
  · rintro rfl
    cases h
  · rintro rfl
    cases h

/-- A byte that stands for itself inside a string. -/
def IsPlain (b : UInt8) : Prop :=
  b ≠ 34 ∧ b ≠ 92 ∧ ¬ b < 32

/-- The forms in which a character may be written. -/
inductive Writes (p : Piece) : Text → Prop where
  | letter (b : UInt8) (hletter : isEscape b = true) (hcode : b ≠ 117) (h : p.bytes = [escaped b]) :
      Writes p [92, b]
  | code (a b c d : UInt8) (h : code? a b c d = some p.scalar) : Writes p [92, 117, a, b, c, d]
  | plain (h : ∀ b ∈ p.bytes, IsPlain b) : Writes p p.bytes

theorem isPlain_of_mem_bytes {p : Piece} (hp : p.IsCharacter) (hletter : escapeLetter? p.scalar = none)
    (hcoded : ¬ IsCoded p.scalar) {b : UInt8} (hb : b ∈ p.bytes) : IsPlain b := by
  obtain ⟨hquote, hslash⟩ := ne_of_escapeLetter?_eq_none hletter
  have hcontrol : ¬ p.scalar < 0x20 := fun h => hcoded (Or.inl h)
  -- a byte of the basic alphabet is the code point itself
  have hvalue : b.toNat = p.scalar ∨ 0x80 ≤ b.toNat := by
    by_cases hbasic : p.scalar < 0x80
    · rw [hp.bytes_of_lt hbasic, List.mem_singleton] at hb
      rw [hb, Nat.toUInt8_eq, UInt8.toNat_ofNat', Nat.mod_eq_of_lt (by omega)]
      exact Or.inl rfl
    · exact Or.inr (hp.le_toNat_of_mem (by omega) hb)
  have hquote' : b.toNat ≠ 34 := by omega
  have hslash' : b.toNat ≠ 92 := by omega
  have hcontrol' : ¬ b.toNat < 32 := by omega
  refine ⟨?_, ?_, ?_⟩
  · exact fun h => hquote' (congrArg UInt8.toNat h)
  · exact fun h => hslash' (congrArg UInt8.toNat h)
  · exact fun h => hcontrol' (UInt8.lt_iff_toNat_lt.mp h)

theorem writes_writePiece {p : Piece} (hp : p.IsCharacter) : Writes p (writePiece p) := by
  unfold writePiece
  cases hletter : escapeLetter? p.scalar with
  | some b =>
    obtain ⟨hbasic, hescape, hcode, hstands⟩ := escapeLetter?_eq_some hletter
    have hbytes : p.bytes = [escaped b] := by
      rw [hp.bytes_of_lt hbasic, hstands]
    exact .letter b hescape hcode hbytes
  | none =>
    simp only [hp.isIll_eq_false, Bool.false_eq_true, if_false]
    split_ifs with hcoded
    · obtain ⟨a, b, c, d, hwritten, hcode⟩ := exists_code hcoded
      rw [hwritten]
      exact .code a b c d hcode
    · exact .plain fun b hb => isPlain_of_mem_bytes hp hletter hcoded hb

/-- A character is written in as many bytes as it has, or in more; never in more than six for each. -/
theorem Writes.length {p : Piece} (hp : p.IsCharacter) {t : Text} (h : Writes p t) :
    p.bytes.length ≤ t.length ∧ t.length ≤ 6 * p.bytes.length := by
  obtain ⟨hone, hfour⟩ := hp.length_bytes
  cases h with
  | letter b hletter hcode hbytes =>
    rw [hbytes]
    simp
  | code a b c d hcode =>
    simp only [List.length_cons, List.length_nil]
    omega
  | plain hplain => omega

end JsonValue

/-! ## Reading in parts -/

namespace JsonReader

/-- A text is read on from where its beginning has led to. -/
theorem run_append (s : State) (t u : Text) :
    run s (t ++ u) =
      match run s t with
      | .value v rest => .value v (rest ++ u)
      | .unfinished s' => run s' u
      | .wrong => .wrong := by
  induction t generalizing s with
  | nil => rfl
  | cons b t ih =>
    rw [List.cons_append, run, run]
    cases step s b with
    | more s' => exact ih s'
    | done v used => cases used <;> rfl
    | wrong => rfl

/-- A value that ends with its text is not complete before. -/
theorem exists_run_eq_unfinished {s : State} {t u : Text} {v : JsonValue}
    (h : run s (t ++ u) = .value v []) (hu : u ≠ []) : ∃ s', run s t = .unfinished s' := by
  rw [run_append] at h
  cases hrun : run s t with
  | value w rest =>
    rw [hrun] at h
    simp only [Outcome.value.injEq, List.append_eq_nil_iff] at h
    exact absurd h.2.2 hu
  | unfinished s' => exact ⟨s', rfl⟩
  | wrong =>
    rw [hrun] at h
    cases h

/-! ## Inside a string -/

variable {raw : Text} {isKey : Bool} {stack : List Frame}

theorem run_plain {t : Text} (ht : ∀ b ∈ t, IsPlain b) (u : Text) :
    run (.inString .plain raw isKey stack) (t ++ u) =
      run (.inString .plain (t.reverse ++ raw) isKey stack) u := by
  induction t generalizing raw with
  | nil => rfl
  | cons b t ih =>
    obtain ⟨hquote, hslash, hcontrol⟩ := ht b List.mem_cons_self
    have hstep : step (.inString .plain raw isKey stack) b =
        .more (.inString .plain (b :: raw) isKey stack) := by
      simp only [step, stringStep, hquote, hslash, hcontrol, if_false]
    rw [List.cons_append, run, hstep]
    simp only [ih fun c hc => ht c (List.mem_cons_of_mem b hc), List.reverse_cons, List.append_assoc,
      List.singleton_append]

theorem isSome_of_code?_eq_some {a b c d : UInt8} {n : Nat} (h : code? a b c d = some n) :
    (Text.hexValue? a).isSome = true ∧ (Text.hexValue? b).isSome = true ∧
      (Text.hexValue? c).isSome = true ∧ (Text.hexValue? d).isSome = true := by
  unfold code? at h
  split at h
  · next ha hb hc hd =>
    rw [ha, hb, hc, hd]
    exact ⟨rfl, rfl, rfl, rfl⟩
  · cases h

/-- What is written for a character is passed over. -/
theorem run_writes {p : Piece} {t : Text} (h : Writes p t) (u : Text) :
    run (.inString .plain raw isKey stack) (t ++ u) =
      run (.inString .plain (t.reverse ++ raw) isKey stack) u := by
  cases h with
  | letter b hletter hcode hbytes => simp [run, step, stringStep, hletter, hcode]
  | code a b c d hcode =>
    obtain ⟨ha, hb, hc, hd⟩ := isSome_of_code?_eq_some hcode
    simp [run, step, stringStep, ha, hb, hc, hd]
  | plain hplain => exact run_plain hplain u

/-- What is written for some characters is passed over. -/
theorem run_writePieces {ps : List Piece} (hps : ∀ p ∈ ps, p.IsCharacter) (u : Text) :
    run (.inString .plain raw isKey stack) (ps.flatMap writePiece ++ u) =
      run (.inString .plain ((ps.flatMap writePiece).reverse ++ raw) isKey stack) u := by
  induction ps generalizing raw with
  | nil => rfl
  | cons p ps ih =>
    have hfirst := writes_writePiece (hps p List.mem_cons_self)
    rw [List.flatMap_cons, List.append_assoc, run_writes hfirst,
      ih fun q hq => hps q (List.mem_cons_of_mem p hq), List.reverse_append, List.append_assoc]

/-! ## What a string stands for -/

theorem pushAll_eq (acc t : Text) : pushAll acc t = t.reverse ++ acc := by
  induction t generalizing acc with
  | nil => rfl
  | cons b t ih =>
    have hpush : pushAll acc (b :: t) = pushAll (b :: acc) t := rfl
    rw [hpush, ih, List.reverse_cons, List.append_assoc, List.singleton_append]

theorem unescape_cons {b : UInt8} (hb : b ≠ 92) (acc u : Text) :
    unescape none acc (b :: u) = unescape none (b :: acc) u := by
  rw [unescape]
  · rfl
  · rintro a c d e t rfl
    exact absurd rfl hb
  · rintro a t rfl
    exact absurd rfl hb

theorem unescape_letter {b : UInt8} (hb : b ≠ 117) (acc u : Text) :
    unescape none acc (92 :: b :: u) = unescape none (escaped b :: acc) u := by
  rw [unescape]
  · rfl
  · rintro a c d e t rfl
    exact absurd rfl hb

theorem unescape_plain {t : Text} (ht : ∀ b ∈ t, IsPlain b) (acc u : Text) :
    unescape none acc (t ++ u) = unescape none (t.reverse ++ acc) u := by
  induction t generalizing acc with
  | nil => rfl
  | cons b t ih =>
    have hslash : b ≠ 92 := (ht b List.mem_cons_self).2.1
    rw [List.cons_append, unescape_cons hslash, ih fun c hc => ht c (List.mem_cons_of_mem b hc),
      List.reverse_cons, List.append_assoc, List.singleton_append]

/-- What is written for a character stands for it. -/
theorem unescape_writes {p : Piece} (hp : p.IsCharacter) {t : Text} (h : Writes p t) (acc u : Text) :
    unescape none acc (t ++ u) = unescape none (p.bytes.reverse ++ acc) u := by
  cases h with
  | letter b hletter hcode hbytes =>
    rw [hbytes]
    exact unescape_letter hcode acc u
  | code a b c d hcode =>
    have hhigh : isHighSurrogate p.scalar = false := by
      have hnot := hp.notSurrogate
      simp only [isHighSurrogate, Bool.and_eq_false_iff, decide_eq_false_iff_not]
      omega
    simp only [List.cons_append, List.nil_append]
    rw [unescape, hcode, Option.getD_some, hhigh, if_neg Bool.false_ne_true, pushAll_eq, hp.bytes]
  | plain hplain => exact unescape_plain hplain acc u

theorem unescape_writePieces {ps : List Piece} (hps : ∀ p ∈ ps, p.IsCharacter) (acc : Text) :
    unescape none acc (ps.flatMap writePiece) = acc.reverse ++ Text.ofPieces ps := by
  induction ps generalizing acc with
  | nil =>
    have hnone : Text.ofPieces [] = [] := rfl
    rw [List.flatMap_nil, unescape, hnone, List.append_nil]
    rfl
  | cons p ps ih =>
    have hp := hps p List.mem_cons_self
    have hbytes : Text.ofPieces (p :: ps) = p.bytes ++ Text.ofPieces ps := List.flatMap_cons
    rw [List.flatMap_cons, unescape_writes hp (writes_writePiece hp),
      ih fun q hq => hps q (List.mem_cons_of_mem p hq), hbytes, List.reverse_append, List.reverse_reverse,
      List.append_assoc]

/-- A string stands for the text that it was written for. -/
theorem stringValue_writePieces {t : Text} (ht : t.isUtf8 = true) :
    stringValue (t.pieces.flatMap writePiece) = t := by
  have hvalue : unescape none [] (t.pieces.flatMap writePiece) = t := by
    rw [unescape_writePieces (Text.isCharacter_of_mem_pieces ht), Text.ofPieces_pieces]
    rfl
  simp only [stringValue, hvalue, Text.repaired_of_isUtf8 ht, ite_self]

/-! ## Strings in an object -/

variable {fields : List (Text × JsonValue)} {key : Text}

/-- A string is read from its first quote to its last. -/
theorem run_string {t : Text} (ht : t.isUtf8 = true) (u : Text) :
    run (.inString .plain [] isKey stack) (t.pieces.flatMap writePiece ++ 34 :: u) =
      match endString (t.pieces.flatMap writePiece).reverse isKey stack with
      | .more s => run s u
      | .done v used => .value v (if used then u else 34 :: u)
      | .wrong => .wrong := by
  rw [run_writePieces (Text.isCharacter_of_mem_pieces ht), List.append_nil]
  rfl

/-- The key of a field is read. -/
theorem run_key {k : Text} (hk : k.isUtf8 = true) (u : Text) :
    run (.between .keyOrClose (.object fields key :: stack)) (writeString k ++ u) =
      run (.between .colon (.object fields k :: stack)) u := by
  have hopen : run (.between .keyOrClose (.object fields key :: stack)) (writeString k ++ u) =
      run (.inString .plain [] true (.object fields key :: stack))
        (k.pieces.flatMap writePiece ++ 34 :: u) := by
    simp only [writeString, List.append_assoc, List.singleton_append]
    rfl
  rw [hopen, run_string hk]
  simp only [endString, List.reverse_reverse, stringValue_writePieces hk]

/-- The value of a field is read. -/
theorem run_fieldText {t : Text} (ht : t.isUtf8 = true) (u : Text) :
    run (.between .value (.object fields key :: stack)) (writeString t ++ u) =
      run (.between .separator (.object ((key, .string t) :: fields) key :: stack)) u := by
  have hopen : run (.between .value (.object fields key :: stack)) (writeString t ++ u) =
      run (.inString .plain [] false (.object fields key :: stack))
        (t.pieces.flatMap writePiece ++ 34 :: u) := by
    simp only [writeString, List.append_assoc, List.singleton_append]
    rfl
  rw [hopen, run_string ht]
  simp only [endString, attach, List.reverse_reverse, stringValue_writePieces ht]

/-- What is written for an object with one text is read back, and only its last byte completes it. -/
theorem run_write_textObject {k t : Text} (hk : k.isUtf8 = true) (ht : t.isUtf8 = true) :
    run start (JsonValue.object [(k, .string t)]).write = .value (.object [(k, .string t)]) [] := by
  have hwrite : (JsonValue.object [(k, .string t)]).write =
      123 :: (writeString k ++ 58 :: (writeString t ++ [125])) := by
    simp [write, writeFields]
  have hopen : step start 123 = .more (.between .keyOrClose [.object [] []]) := rfl
  have hcolon : ∀ stack, step (.between .colon stack) 58 = .more (.between .value stack) := fun _ => rfl
  rw [hwrite, run, hopen]
  simp only [run_key hk]
  rw [run, hcolon]
  simp only [run_fieldText ht]
  rfl

end JsonReader

/-! ## How long a string is written -/

namespace JsonValue

theorem length_writePieces {ps : List Piece} (hps : ∀ p ∈ ps, p.IsCharacter) :
    (Text.ofPieces ps).length ≤ (ps.flatMap writePiece).length ∧
      (ps.flatMap writePiece).length ≤ 6 * (Text.ofPieces ps).length := by
  induction ps with
  | nil => exact ⟨Nat.le_refl 0, Nat.le_refl 0⟩
  | cons p ps ih =>
    have hp := hps p List.mem_cons_self
    obtain ⟨hlow, hhigh⟩ := (writes_writePiece hp).length hp
    obtain ⟨hlow', hhigh'⟩ := ih fun q hq => hps q (List.mem_cons_of_mem p hq)
    have hbytes : Text.ofPieces (p :: ps) = p.bytes ++ Text.ofPieces ps := List.flatMap_cons
    rw [hbytes, List.flatMap_cons, List.length_append, List.length_append]
    omega

theorem length_writeString_eq (t : Text) :
    (writeString t).length = (t.pieces.flatMap writePiece).length + 2 := by
  simp only [writeString, List.length_append, List.length_singleton]
  omega

/-- A string is written in one to six bytes for each byte of its text, besides the quotes. -/
theorem length_writeString {t : Text} (ht : t.isUtf8 = true) :
    t.length + 2 ≤ (writeString t).length ∧ (writeString t).length ≤ 6 * t.length + 2 := by
  obtain ⟨hlow, hhigh⟩ := length_writePieces (Text.isCharacter_of_mem_pieces ht)
  rw [Text.ofPieces_pieces] at hlow hhigh
  rw [length_writeString_eq]
  omega

/-- A text that repeats one character of the basic alphabet takes as often as many bytes as that. -/
theorem length_writeString_replicate {b : UInt8} (hb : b < 0x80) (n : Nat) :
    (writeString (List.replicate n b)).length = n * (writePiece ⟨[b], b.toNat⟩).length + 2 := by
  have hbasic : ∀ c ∈ List.replicate n b, c < 0x80 := by
    intro c hc
    rw [List.eq_of_mem_replicate hc]
    exact hb
  rw [length_writeString_eq, Text.pieces_of_basic hbasic, List.map_replicate, List.flatMap_replicate,
    List.length_flatten, List.map_replicate, List.sum_replicate_nat]

end JsonValue

end SyntaxPlayground
