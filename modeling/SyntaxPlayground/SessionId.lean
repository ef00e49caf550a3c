import SyntaxPlayground.Text.Basic

/-!
# Session identifiers

An identifier has 128 bits: the time in milliseconds (48), a number that counts the identifiers made
within one millisecond (16), and random bits (64). It is written as 26 characters of an alphabet
whose order is the order of the bytes, five bits a character from the most significant end, so that
identifiers sort by age.
-/

namespace SyntaxPlayground

namespace SessionId

/-- The digits and the capital letters without `I`, `L`, `O` and `U`. -/
def alphabet : Text := utf8 "0123456789ABCDEFGHJKMNPQRSTVWXYZ"

/-- The character for the last five bits of a word. -/
def digit (word : UInt32) : UInt8 :=
  alphabet.getD (word &&& 31).toNat 0

/-- Writes the last `n` bits of a word from the most significant end, five at a time while there are
five; answers the characters and the number of bits left. -/
def drain (word : UInt32) : Nat → Text × Nat
  | n + 5 =>
    let (t, left) := drain word n
    (digit (word >>> n.toUInt32) :: t, left)
  | n => ([], n)

/-- Writes bytes. `word` holds the bits read last, of which `pending` are still to be written. -/
def encodeFrom (word : UInt32) (pending : Nat) : List UInt8 → Text
  | [] => []
  | b :: bytes =>
    let word := word <<< 8 ||| b.toUInt32
    let (t, left) := drain word (pending + 8)
    t ++ encodeFrom word left bytes

/-- The 26 characters of 16 bytes. They have room for two bits more, which come first and are
zero. -/
def encode (bytes : List UInt8) : Text :=
  encodeFrom 0 2 bytes

/-- Where identifiers come from: the time of the last one and its number within that
millisecond. -/
structure Source where
  time : Nat := 0
  sequence : UInt16 := 0
deriving DecidableEq, Repr

namespace Source

/-- The bytes of an identifier. -/
def bytes (time : Nat) (sequence : UInt16) (random : Fin 8 → UInt8) : List UInt8 :=
  [(time / 1099511627776).toUInt8, (time / 4294967296).toUInt8, (time / 16777216).toUInt8,
    (time / 65536).toUInt8, (time / 256).toUInt8, time.toUInt8,
    (sequence.toNat / 256).toUInt8, sequence.toNat.toUInt8] ++ List.ofFn random

/-- A fresh identifier at the time `now`, in milliseconds. -/
def next (s : Source) (now : Nat) (random : Fin 8 → UInt8) : Text × Source :=
  let s : Source := if now = s.time then ⟨now, s.sequence + 1⟩ else ⟨now, 0⟩
  (encode (bytes s.time s.sequence random), s)

end Source

end SessionId

end SyntaxPlayground
