import SyntaxPlayground.Proofs.SessionId.Numeral

/-!
# Identifiers sort by age

An identifier begins with the time and the number of the identifier within its millisecond; these two are
its stamp. Every new identifier has a greater stamp than the last one (`stamp_lt_next`), as long as the clock
does not run backwards and the 16 bits of the number do not overflow. The random bytes stand behind the
stamp, so they never decide between two identifiers, and `issued_increasing` follows: the identifiers of a
run increase.
-/

namespace SyntaxPlayground

namespace SessionId

open Text

namespace Source

/-- A call for an identifier: the time in milliseconds, and ten random bytes. -/
structure Call where
  now : Nat
  drawn : Fin 10 → UInt8

/-- The random bytes of the identifier. In place of the first two that were drawn stands its number. -/
def Call.random (c : Call) : Fin 8 → UInt8 :=
  fun i => c.drawn (i.natAdd 2)

/-- The identifiers that some calls get, in order. -/
def issued (s : Source) : List Call → List Text
  | [] => []
  | c :: calls => (s.next c.now c.random).1 :: issued (s.next c.now c.random).2 calls

/-! ## Stamps -/

/-- What an identifier begins with: the time and the number within the millisecond. -/
def stamp (s : Source) : Nat :=
  s.time * 2 ^ 16 + s.sequence.toNat

variable {s : Source}

theorem length_bytes_eq (time : Nat) (sequence : UInt16) (random : Fin 8 → UInt8) :
    (bytes time sequence random).length = 16 := by
  simp [bytes]

/-- The bytes are the stamp and behind it the random bytes. -/
theorem number_bytes (hs : s.time < 2 ^ 48) (random : Fin 8 → UInt8) :
    number (bytes s.time s.sequence random) = s.stamp * 2 ^ 64 + number (List.ofFn random) := by
  have hsequence := s.sequence.toNat_lt
  unfold number bytes stamp
  rw [valueOf_append, List.length_ofFn, show 256 ^ 8 = 2 ^ 64 by decide]
  refine congrArg (fun n => n * 2 ^ 64 + valueOf 256 UInt8.toNat (List.ofFn random)) ?_
  have hnil : valueOf 256 UInt8.toNat [] = 0 := rfl
  simp only [valueOf_cons, hnil, List.length_cons, List.length_nil, Nat.toUInt8, UInt8.toNat_ofNat']
  omega

theorem number_random_lt (random : Fin 8 → UInt8) : number (List.ofFn random) < 2 ^ 64 := by
  have hlt := isDigits_bytes.valueOf_lt (t := List.ofFn random) fun b _ => Set.mem_univ b
  rwa [List.length_ofFn] at hlt

/-! ## One call -/

theorem next_time (s : Source) (now : Nat) (random : Fin 8 → UInt8) :
    (s.next now random).2.time = now := by
  unfold next
  by_cases hnow : now = s.time
  · simp [hnow]
  · simp [hnow]

theorem next_sequence (s : Source) (now : Nat) (random : Fin 8 → UInt8) :
    (s.next now random).2.sequence = if now = s.time then s.sequence + 1 else 0 := by
  unfold next
  by_cases hnow : now = s.time
  · simp [hnow]
  · simp [hnow]

theorem isIdentifier_next (s : Source) (now : Nat) (random : Fin 8 → UInt8) :
    IsIdentifier (s.next now random).1 :=
  isIdentifier_encode (length_bytes_eq _ _ random)

/-- The number of a fresh identifier begins with the new stamp, whatever the random bytes. -/
theorem value_next (s : Source) {now : Nat} (hnow : now < 2 ^ 48) (random : Fin 8 → UInt8) :
    (s.next now random).2.stamp * 2 ^ 64 ≤ value (s.next now random).1 ∧
      value (s.next now random).1 < ((s.next now random).2.stamp + 1) * 2 ^ 64 := by
  have htime : (s.next now random).2.time < 2 ^ 48 := by rwa [next_time]
  have hvalue : value (s.next now random).1 =
      (s.next now random).2.stamp * 2 ^ 64 + number (List.ofFn random) := by
    rw [← number_bytes htime]
    exact value_encode (length_bytes_eq _ _ random)
  have hrandom := number_random_lt random
  omega

/-- How often the clock shows a time while some calls are answered. -/
def readings (calls : List Call) (t : Nat) : Nat :=
  (calls.map Call.now).count t

/-- The source can answer the calls: the clock never runs backwards, its readings fit 48 bits, and the
numbers left within each millisecond are enough. -/
structure Ready (s : Source) (calls : List Call) : Prop where
  later : ∀ c ∈ calls, s.time ≤ c.now
  ordered : (calls.map Call.now).Pairwise (· ≤ ·)
  fits : ∀ c ∈ calls, c.now < 2 ^ 48
  room : s.sequence.toNat + readings calls s.time < 2 ^ 16
  room_later : ∀ t, readings calls t < 2 ^ 16

variable {c : Call} {calls : List Call}

theorem readings_cons (c : Call) (calls : List Call) (t : Nat) :
    readings (c :: calls) t = readings calls t + if c.now = t then 1 else 0 := by
  unfold readings
  rw [List.map_cons, List.count_cons]
  simp

/-- Within a millisecond the number grows by one and does not overflow. -/
theorem Ready.sequence_eq (h : Ready s (c :: calls)) (hnow : c.now = s.time) :
    (s.next c.now c.random).2.sequence.toNat = s.sequence.toNat + 1 := by
  have hroom := h.room
  rw [readings_cons, if_pos hnow] at hroom
  rw [next_sequence, if_pos hnow, UInt16.toNat_add, show (1 : UInt16).toNat = 1 by decide]
  omega

/-- A fresh identifier has a greater stamp than the last one. -/
theorem Ready.stamp_lt_next (h : Ready s (c :: calls)) : s.stamp < (s.next c.now c.random).2.stamp := by
  have hlater := h.later c List.mem_cons_self
  have hsequence := s.sequence.toNat_lt
  unfold stamp
  rw [next_time]
  by_cases hnow : c.now = s.time
  · rw [h.sequence_eq hnow, hnow]
    omega
  · omega

theorem Ready.next (h : Ready s (c :: calls)) : Ready (s.next c.now c.random).2 calls := by
  have hordered := h.ordered
  rw [List.map_cons, List.pairwise_cons] at hordered
  have hroom := h.room
  have hreadings := h.room_later c.now
  rw [readings_cons] at hroom hreadings
  refine ⟨?_, hordered.2, ?_, ?_, ?_⟩
  · intro d hd
    rw [next_time]
    exact hordered.1 d.now (List.mem_map_of_mem hd)
  · intro d hd
    exact h.fits d (List.mem_cons_of_mem c hd)
  · rw [next_time]
    by_cases hnow : c.now = s.time
    · rw [if_pos hnow] at hroom
      rw [h.sequence_eq hnow, hnow]
      omega
    · -- in a new millisecond the numbers begin again
      rw [if_pos rfl] at hreadings
      rw [next_sequence, if_neg hnow, show (0 : UInt16).toNat = 0 by decide]
      omega
  · intro t
    have hlater := h.room_later t
    rw [readings_cons] at hlater
    omega

/-! ## Runs -/

/-- The identifiers of a run look like identifiers, and their numbers lie beyond the last stamp. -/
theorem Ready.of_mem_issued (h : Ready s calls) {id : Text} (hid : id ∈ s.issued calls) :
    IsIdentifier id ∧ (s.stamp + 1) * 2 ^ 64 ≤ value id := by
  induction calls generalizing s with
  | nil => exact absurd hid List.not_mem_nil
  | cons c calls ih =>
    have hstamp : (s.stamp + 1) * 2 ^ 64 ≤ (s.next c.now c.random).2.stamp * 2 ^ 64 :=
      Nat.mul_le_mul_right _ h.stamp_lt_next
    rcases List.mem_cons.mp hid with rfl | hid
    · have hvalue := (s.value_next (h.fits c List.mem_cons_self) c.random).1
      exact ⟨s.isIdentifier_next c.now c.random, Nat.le_trans hstamp hvalue⟩
    · rcases ih h.next hid with ⟨hform, hvalue⟩
      have hgrows : (s.next c.now c.random).2.stamp * 2 ^ 64 ≤
          ((s.next c.now c.random).2.stamp + 1) * 2 ^ 64 := Nat.mul_le_mul_right _ (Nat.le_succ _)
      exact ⟨hform, Nat.le_trans (Nat.le_trans hstamp hgrows) hvalue⟩

theorem Ready.increasing (h : Ready s calls) : (s.issued calls).Pairwise (· < ·) := by
  induction calls generalizing s with
  | nil => exact List.Pairwise.nil
  | cons c calls ih =>
    refine List.Pairwise.cons ?_ (ih h.next)
    intro id hid
    rcases h.next.of_mem_issued hid with ⟨hform, hvalue⟩
    have hfirst := (s.value_next (h.fits c List.mem_cons_self) c.random).2
    rw [(s.isIdentifier_next c.now c.random).lt_iff hform]
    omega

theorem length_issued (s : Source) (calls : List Call) : (s.issued calls).length = calls.length := by
  induction calls generalizing s with
  | nil => rfl
  | cons c calls ih =>
    unfold issued
    rw [List.length_cons, List.length_cons, ih]

/-- As long as the clock does not run backwards, its readings fit 48 bits, and fewer than 65536 calls share
a reading, every call gets an identifier that is greater than all before it, whatever random bytes are
drawn. In particular no two are the same. -/
theorem issued_increasing {calls : List Call} (hclock : (calls.map Call.now).Pairwise (· ≤ ·))
    (hfits : ∀ c ∈ calls, c.now < 2 ^ 48) (hshare : ∀ t, (calls.map Call.now).count t < 65536) :
    (issued {} calls).length = calls.length ∧ (issued {} calls).Pairwise (· < ·) ∧
      (issued {} calls).Nodup := by
  have hready : Ready {} calls := by
    refine ⟨?_, hclock, hfits, ?_, hshare⟩
    · intro c _
      exact Nat.zero_le c.now
    · have hshare' := hshare 0
      unfold readings
      show (0 : UInt16).toNat + (calls.map Call.now).count 0 < 2 ^ 16
      rw [show (0 : UInt16).toNat = 0 by decide]
      omega
  have hincreasing := hready.increasing
  exact ⟨length_issued {} calls, hincreasing, hincreasing.nodup⟩

/-- Two calls share the first reading of the clock and two a later one, and the random bytes decrease. -/
def crowdedCalls : List Call :=
  [⟨0, fun _ => 255⟩, ⟨0, fun _ => 0⟩, ⟨281474976710655, fun _ => 255⟩, ⟨281474976710655, fun _ => 0⟩]

theorem issued_increasing_crowdedCalls :
    (issued {} crowdedCalls).Pairwise (· < ·) ∧
      (issued {} crowdedCalls).take 2 =
        [utf8 "0000000000000ZZZZZZZZZZZZZ", utf8 "00000000000010000000000000"] := by
  have hshare : ∀ t, (crowdedCalls.map Call.now).count t < 65536 := by
    intro t
    exact Nat.lt_of_le_of_lt List.count_le_length (by decide)
  rcases @issued_increasing crowdedCalls (by decide) (by decide) hshare with
    ⟨-, hincreasing, -⟩
  exact ⟨hincreasing, by decide⟩

end Source

end SessionId

end SyntaxPlayground
