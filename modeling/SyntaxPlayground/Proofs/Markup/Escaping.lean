import SyntaxPlayground.Markup.Reference
import SyntaxPlayground.Markup.Writer

/-!
# Escaped text reads back

Escaping writes six bytes as references and leaves the others alone. Three of the references are
names with a semicolon, three are decimal numbers with a semicolon, and the reader decodes each of
them to the byte it came from, in text and in attribute values alike. So decoding undoes escaping for
every string of bytes, whatever it looks like (`decodeReferences_escaped`), and nothing in escaped
text can be taken for a tag, a quote or a line end.
-/

namespace SyntaxPlayground

/-! ## References with a semicolon -/

namespace Reference

theorem takeWhile_append_stop {p : UInt8 → Bool} {s : Text} {b : UInt8} (rest : Text)
    (hs : ∀ c ∈ s, p c = true) (hb : p b = false) : (s ++ b :: rest).takeWhile p = s := by
  rw [List.takeWhile_append_of_pos hs, List.takeWhile_cons_of_neg (by simp [hb]), List.append_nil]

/-- A known name with its semicolon stands for its characters, whatever follows. -/
theorem readName?_semicolon {word c : Text} (inAttribute : Bool) (rest : Text)
    (hword : ∀ b ∈ word, (Text.isLetter b || Text.isDigit b) = true)
    (hfind : ReferenceName.find? word = some c) :
    readName? inAttribute (word ++ 59 :: rest) = some (c, word.length + 1) := by
  have hstop : (Text.isLetter 59 || Text.isDigit 59) = false := by decide
  have htake := takeWhile_append_stop rest hword hstop
  have hnext : ((word ++ 59 :: rest).drop word.length).head? = some 59 := by
    rw [List.drop_left, List.head?_cons]
  unfold readName?
  simp only [htake, hnext]
  have hwhole : wholeWord? word true = some c := by
    simp [wholeWord?, hfind]
  simp [hwhole]

/-- Decimal digits with a semicolon stand for the code point they name, whatever follows. -/
theorem readNumber?_semicolon {d : UInt8} {ds : Text} (rest : Text)
    (hds : ∀ b ∈ d :: ds, Text.isDigit b = true) (hx : d ≠ 120 ∧ d ≠ 88) :
    readNumber? (d :: ds ++ 59 :: rest) =
      some (numbered (wordValue 10 (d :: ds)), (d :: ds).length + 1) := by
  have hstop : Text.isDigit 59 = false := by decide
  have htake := takeWhile_append_stop rest hds hstop
  have hnext : ((d :: ds ++ 59 :: rest).drop (d :: ds).length).head? = some 59 := by
    rw [List.drop_left, List.head?_cons]
  have hhex : ((d :: ds ++ 59 :: rest).head? == some 120 ||
      (d :: ds ++ 59 :: rest).head? == some 88) = false := by
    simp [hx.1, hx.2]
  unfold readNumber?
  simp only [hhex, Bool.false_eq_true, if_false, htake, hnext, if_true]
  simp

end Reference

namespace Text

/-! ## Decoding -/

@[simp] theorem decodeReferences_go_nil (inAttribute : Bool) (skip : Nat) :
    decodeReferences.go inAttribute skip [] = [] := by
  unfold decodeReferences.go
  rfl

/-- The bytes of a reference that was read are passed over. -/
theorem decodeReferences_go_append (inAttribute : Bool) (s rest : Text) :
    decodeReferences.go inAttribute s.length (s ++ rest) =
      decodeReferences.go inAttribute 0 rest := by
  induction s with
  | nil => rfl
  | cons b s ih =>
    rw [List.length_cons, List.cons_append, decodeReferences.go]
    exact ih

/-- A reference `&s` that reads as `c` is replaced by `c`. -/
theorem decodeReferences_go_reference {inAttribute : Bool} {s c rest : Text}
    (h : Reference.read? inAttribute (s ++ rest) = some (c, s.length)) :
    decodeReferences.go inAttribute 0 (38 :: (s ++ rest)) =
      c ++ decodeReferences.go inAttribute 0 rest := by
  rw [decodeReferences.go, if_pos rfl, h]
  simp only
  rw [decodeReferences_go_append]

theorem decodeReferences_go_other {inAttribute : Bool} {b : UInt8} (hb : b ≠ 38) (rest : Text) :
    decodeReferences.go inAttribute 0 (b :: rest) =
      b :: decodeReferences.go inAttribute 0 rest := by
  rw [decodeReferences.go, if_neg hb]

/-! ## One byte -/

/-- The bytes that are written as names. -/
theorem escapeByte_name {b : UInt8} (h : b = 38 ∨ b = 60 ∨ b = 62) :
    ∃ word, escapeByte b = 38 :: (word ++ [59]) ∧
      (∀ c ∈ word, (isLetter c || isDigit c) = true) ∧ word.head? ≠ some 35 ∧
      ReferenceName.find? word = some [b] := by
  rcases h with rfl | rfl | rfl
  · exact ⟨utf8 "amp", by decide +kernel⟩
  · exact ⟨utf8 "lt", by decide +kernel⟩
  · exact ⟨utf8 "gt", by decide +kernel⟩

/-- The bytes that are written as numbers. -/
theorem escapeByte_number {b : UInt8} (h : b = 39 ∨ b = 34 ∨ b = 13) :
    ∃ d ds, escapeByte b = 38 :: 35 :: (d :: ds ++ [59]) ∧
      (∀ c ∈ d :: ds, isDigit c = true) ∧ (d ≠ 120 ∧ d ≠ 88) ∧
      Reference.numbered (Reference.wordValue 10 (d :: ds)) = [b] := by
  rcases h with rfl | rfl | rfl
  · exact ⟨51, [57], by decide +kernel⟩
  · exact ⟨51, [52], by decide +kernel⟩
  · exact ⟨49, [51], by decide +kernel⟩

/-- The bytes that are not escaped. -/
theorem escapeByte_plain {b : UInt8} (h : ¬(b = 38 ∨ b = 60 ∨ b = 62))
    (h' : ¬(b = 39 ∨ b = 34 ∨ b = 13)) : escapeByte b = [b] := by
  simp only [not_or] at h h'
  simp [escapeByte, h, h']

theorem decodeReferences_go_escapeByte (inAttribute : Bool) (b : UInt8) (rest : Text) :
    decodeReferences.go inAttribute 0 (escapeByte b ++ rest) =
      b :: decodeReferences.go inAttribute 0 rest := by
  by_cases hname : b = 38 ∨ b = 60 ∨ b = 62
  · rcases escapeByte_name hname with ⟨word, hword, halnum, hhead, hfind⟩
    have hread : Reference.read? inAttribute ((word ++ [59]) ++ rest) =
        some ([b], (word ++ [59]).length) := by
      rw [List.append_assoc, List.length_append, List.singleton_append, List.length_singleton]
      rw [← Reference.readName?_semicolon inAttribute rest halnum hfind]
      unfold Reference.read?
      split
      · rename_i tail htail
        -- a name does not begin with the mark of a number
        cases word with
        | nil => exact absurd hfind (by simp [ReferenceName.find?])
        | cons w ws =>
          have hw : w = 35 := (List.cons.inj htail).1
          exact absurd (congrArg some hw) hhead
      · rfl
    rw [hword, List.cons_append, decodeReferences_go_reference hread]
    rfl
  · by_cases hnumber : b = 39 ∨ b = 34 ∨ b = 13
    · rcases escapeByte_number hnumber with ⟨d, ds, hbyte, hdigits, hx, hvalue⟩
      have hread : Reference.read? inAttribute ((35 :: (d :: ds ++ [59])) ++ rest) =
          some ([b], (35 :: (d :: ds ++ [59])).length) := by
        have hnum := Reference.readNumber?_semicolon rest hdigits hx
        rw [hvalue] at hnum
        have happend : (d :: ds ++ [59]) ++ rest = d :: ds ++ 59 :: rest := by simp
        rw [List.cons_append, happend]
        simp only [Reference.read?, hnum, Option.map_some, List.length_cons, List.length_append,
          List.length_nil]
      rw [hbyte, List.cons_append, decodeReferences_go_reference hread]
      rfl
    · rw [escapeByte_plain hname hnumber, List.singleton_append]
      have hamp : b ≠ 38 := fun h => hname (Or.inl h)
      exact decodeReferences_go_other hamp rest

/-! ## Whole texts -/

@[simp] theorem escaped_nil : escaped [] = [] := rfl

theorem escaped_cons (b : UInt8) (t : Text) : escaped (b :: t) = escapeByte b ++ escaped t := rfl

/-- Decoding undoes escaping. -/
theorem decodeReferences_escaped (inAttribute : Bool) (t : Text) :
    (escaped t).decodeReferences inAttribute = t := by
  unfold decodeReferences
  induction t with
  | nil => rw [escaped_nil, decodeReferences_go_nil]
  | cons b t ih => rw [escaped_cons, decodeReferences_go_escapeByte, ih]

/-- The bytes that escaping leaves none of: the carriage return, the double quote and `<`. -/
theorem escapeByte_clean {b c : UInt8} (h : c ∈ escapeByte b) : c ≠ 13 ∧ c ≠ 34 ∧ c ≠ 60 := by
  by_cases hname : b = 38 ∨ b = 60 ∨ b = 62
  · rcases hname with rfl | rfl | rfl <;> revert c <;> decide +kernel
  · by_cases hnumber : b = 39 ∨ b = 34 ∨ b = 13
    · rcases hnumber with rfl | rfl | rfl <;> revert c <;> decide +kernel
    · rw [escapeByte_plain hname hnumber] at h
      have hc : c = b := List.mem_singleton.mp h
      subst hc
      simp only [not_or] at hname hnumber
      exact ⟨hnumber.2.2, hnumber.2.1, hname.2.1⟩

theorem mem_escaped_clean {t : Text} {c : UInt8} (h : c ∈ escaped t) : c ≠ 13 ∧ c ≠ 34 ∧ c ≠ 60 := by
  rcases List.mem_flatMap.mp h with ⟨b, _, hc⟩
  exact escapeByte_clean hc

/-- A text without carriage returns has nothing to unify. -/
theorem unifyNewlines_eq_self {t : Text} (h : ∀ c ∈ t, c ≠ 13) : t.unifyNewlines = t := by
  induction t with
  | nil => rfl
  | cons b t ih =>
    have hb : b ≠ 13 := h b List.mem_cons_self
    have ht := ih fun c hc => h c (List.mem_cons_of_mem b hc)
    rw [unifyNewlines, if_neg hb, ht]
    rintro _ rfl
    exact absurd rfl hb

/-- A text that was escaped is what reading its escaped form gives. -/
theorem decode_unify_escaped (inAttribute : Bool) (t : Text) :
    (escaped t).unifyNewlines.decodeReferences inAttribute = t := by
  rw [unifyNewlines_eq_self fun c hc => (mem_escaped_clean hc).1, decodeReferences_escaped]

end Text

end SyntaxPlayground
