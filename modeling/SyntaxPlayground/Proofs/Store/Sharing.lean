import Mathlib.Data.List.Nodup
import Mathlib.Logic.Function.Basic
import SyntaxPlayground.Proofs.Session.Step
import SyntaxPlayground.Store

/-!
# A store that is shared

Any number of callers use one store. A call has the store to itself while it looks at the register and
changes it; the sessions that it takes out of the register are closed afterwards, one after the other,
while other calls may already be going on. In the meantime those who hold a session run commands on it.

`Sharing` is the state of all of them, `Sharing.Enabled` and `Sharing.next` say what may happen next and
what it does, and `Sharing.Runs` are the interleavings. Besides the store, the state keeps the books: which
sessions were ever created and removed, who still has to close which one, and which ones were closed.

`foldl_closeOne_enter` says how this relates to the operations of the store: a call that nobody disturbs
does to the store what `Store.whole` does at once.
-/

namespace SyntaxPlayground

/-- What a caller asks of a store. -/
inductive StoreCall where
  | create (now : Int) (random : Fin 8 → UInt8)
  | get (id : Text)
  | delete (id : Text)
  | cleanup (now : Int)
  | stop

/-- What a call comes back with. -/
inductive StoreReply where
  | created (r : Except StoreError Text)
  | found (r : Except StoreError Session)
  | deleted (r : Except StoreError Unit)
  | cleaned (n : Nat)
  | stopped

/-- The identifier that a reply gives out for the first time. -/
def StoreReply.newId : StoreReply → List Text
  | .created (.ok id) => [id]
  | .created (.error _) | .found _ | .deleted _ | .cleaned _ | .stopped => []

namespace Store

/-- Whether a call takes a session out of the register. -/
def picks (s : Store) : StoreCall → Session → Bool
  | .create .. | .get _ => fun _ => false
  | .delete id => fun session => session.id == id
  | .cleanup now => s.isExpired now
  | .stop => fun _ => true

/-- The identifiers of the sessions that a call takes out of the register. -/
def taken (s : Store) (c : StoreCall) : List Text :=
  (s.registered.filter (s.picks c)).map Session.id

/-- What a call does while it has the store to itself, and what it will come back with. Nothing is closed
yet. -/
def enter (s : Store) (c : StoreCall) : Store × StoreReply :=
  match c with
  | .create now random =>
    match s.create now random with
    | .ok (session, s') => (s', .created (.ok session.id))
    | .error e => (s, .created (.error e))
  | .get id => (s, .found (s.get id))
  | .delete id => (s.retire (s.picks c), .deleted ((s.get id).map fun _ => ()))
  | .cleanup _ => (s.retire (s.picks c), .cleaned (s.registered.filter (s.picks c)).length)
  | .stop => ({ s.retire (s.picks c) with cleaning := false }, .stopped)

/-- Closes one session. -/
def closeOne (s : Store) (id : Text) : Store :=
  s.update id Session.close

/-- What a call does to the store if it is all done at once. -/
def whole (s : Store) : StoreCall → Store
  | .create now random =>
    match s.create now random with
    | .ok (_, s') => s'
    | .error _ => s
  | .get _ => s
  | .delete id =>
    match s.delete id with
    | .ok s' => s'
    | .error _ => s
  | .cleanup now => (s.cleanup now).2
  | .stop => s.stop

end Store

/-- Where a call stands: it has not begun, it has left the store and closes the sessions that it took out,
or it came back. -/
inductive Visit where
  | idle
  | closing (reply : StoreReply)
  | returned (reply : StoreReply)

/-- What a call will come back with, once it is known. -/
def Visit.reply? : Visit → Option StoreReply
  | idle => none
  | closing reply | returned reply => some reply

/-- A store that is shared, with everybody who uses it. -/
structure Sharing where
  store : Store
  visits : Nat → Visit := fun _ => .idle
  /-- The sessions that are still to be closed, each with the call that took it out. -/
  awaiting : List (Nat × Text) := []
  /-- The sessions that were closed, oldest first. -/
  closings : List Text := []
  /-- The sessions that were ever created, oldest first. -/
  created : List Text := []
  /-- The sessions that were ever taken out of the register, oldest removal first. -/
  removed : List Text := []

/-- What can happen to a store that is shared. -/
inductive Move where
  /-- A call has the store to itself. -/
  | enter (i : Nat) (c : StoreCall)
  /-- A call closes one of the sessions that it took out. -/
  | close (i : Nat) (id : Text)
  /-- A call comes back. -/
  | back (i : Nat)
  /-- Somebody who holds a session runs a command on it. -/
  | command (id : Text) (x : Session.Step)
  /-- Somebody who holds a session notes the time. -/
  | touch (id : Text) (now : Int)

namespace Sharing

/-- A new store, with nobody there yet. -/
def opening (unit : OffsetUnit) (ttl limit : Int) : Sharing :=
  { store := { unit, ttl, limit } }

/-- What may happen next. -/
def Enabled (s : Sharing) : Move → Prop
  | .enter i _ => s.visits i = .idle
  | .close i id => (i, id) ∈ s.awaiting
  | .back i => (∃ reply, s.visits i = .closing reply) ∧ ∀ p ∈ s.awaiting, p.1 ≠ i
  | .command .. | .touch .. => True

/-- What it does. -/
def next (s : Sharing) : Move → Sharing
  | .enter i c =>
    let (store, reply) := s.store.enter c
    { s with
      store
      visits := Function.update s.visits i (.closing reply)
      awaiting := s.awaiting ++ (s.store.taken c).map fun id => (i, id)
      created := s.created ++ reply.newId
      removed := s.removed ++ s.store.taken c }
  | .close i id =>
    { s with
      store := s.store.closeOne id
      awaiting := s.awaiting.erase (i, id)
      closings := s.closings ++ [id] }
  | .back i =>
    match s.visits i with
    | .closing reply => { s with visits := Function.update s.visits i (.returned reply) }
    | .idle | .returned _ => s
  | .command id x => { s with store := (s.store.command x.compiler x.now id x.command).2 }
  | .touch id now => { s with store := s.store.update id (·.touched now) }

/-- One state leads to another by what has happened in between. -/
inductive Runs (s : Sharing) : List Move → Sharing → Prop where
  | nil : Runs s [] s
  | snoc {τ : List Move} {m : Sharing} (h : Runs s τ m) {e : Move} (he : m.Enabled e) :
      Runs s (τ ++ [e]) (m.next e)

end Sharing

/-! ## The register -/

namespace Session

/-- What the books say about a session. -/
def entry (x : Session) : Text × Bool :=
  (x.id, x.closed)

theorem entry_after (x : Session) (step : Step) : (x.after step).entry = x.entry := by
  have hsettings := settings_after x step
  simp only [settings, Prod.mk.injEq] at hsettings
  obtain ⟨hid, _, hclosed⟩ := hsettings
  rw [entry, hid, hclosed]
  rfl

@[simp] theorem id_close (x : Session) : x.close.id = x.id := by
  unfold close
  split <;> rfl

@[simp] theorem closed_close (x : Session) : x.close.closed = true := by
  unfold close
  split
  · next h => exact h
  · rfl

theorem close_of_closed {x : Session} (h : x.closed = true) : x.close = x := by
  rw [close, if_pos h]

end Session

namespace Store

variable {s : Store} {id : Text}

@[simp] theorem retire_registered (s : Store) (p : Session → Bool) :
    (s.retire p).registered = s.registered.filter fun x => !p x := rfl

@[simp] theorem retire_retired (s : Store) (p : Session → Bool) :
    (s.retire p).retired = s.retired ++ s.registered.filter p := rfl

@[simp] theorem retire_limit (s : Store) (p : Session → Bool) : (s.retire p).limit = s.limit := rfl

theorem enter_create_of_full (h : 0 < s.limit ∧ s.limit ≤ s.size) (now : Int) (random : Fin 8 → UInt8) :
    s.enter (.create now random) = (s, .created (.error (.limitReached s.limit))) := by
  simp only [enter, create, if_pos h]

theorem enter_create_of_room (h : ¬ (0 < s.limit ∧ s.limit ≤ s.size)) (now : Int)
    (random : Fin 8 → UInt8) :
    ∃ id ids, s.enter (.create now random) =
      ({ s with ids, registered := s.registered ++ [.new id s.unit now] }, .created (.ok id)) := by
  refine ⟨(s.ids.next (now / 1000000).toNat random).1, (s.ids.next (now / 1000000).toNat random).2, ?_⟩
  simp only [enter, create, if_neg h]
  rfl

/-- A call leaves in the register what it does not take out; only a call that creates a session adds
one. -/
theorem enter_cases (s : Store) (c : StoreCall) :
    (∃ now random, c = .create now random ∧ ¬ (0 < s.limit ∧ s.limit ≤ s.size) ∧
      ∃ id ids, s.enter c =
        ({ s with ids, registered := s.registered ++ [.new id s.unit now] }, .created (.ok id))) ∨
    (∃ now random, c = .create now random ∧
      s.enter c = (s, .created (.error (.limitReached s.limit)))) ∨
    (∃ cleaning reply, s.enter c = ({ s.retire (s.picks c) with cleaning }, reply) ∧
      reply.newId = []) := by
  cases c with
  | create now random =>
    by_cases hfull : 0 < s.limit ∧ s.limit ≤ s.size
    · exact Or.inr (Or.inl ⟨now, random, rfl, enter_create_of_full hfull now random⟩)
    · exact Or.inl ⟨now, random, rfl, hfull, enter_create_of_room hfull now random⟩
  | get id =>
    refine Or.inr (Or.inr ⟨s.cleaning, .found (s.get id), ?_, rfl⟩)
    simp only [enter, picks, retire, Bool.not_false, List.filter_true, List.filter_false,
      List.append_nil]
  | delete id => exact Or.inr (Or.inr ⟨s.cleaning, _, rfl, rfl⟩)
  | cleanup now => exact Or.inr (Or.inr ⟨s.cleaning, _, rfl, rfl⟩)
  | stop => exact Or.inr (Or.inr ⟨false, _, rfl, rfl⟩)

theorem taken_create (s : Store) (now : Int) (random : Fin 8 → UInt8) :
    s.taken (.create now random) = [] := by
  simp only [taken, picks, List.filter_false, List.map_nil]

theorem taken_get (s : Store) (id : Text) : s.taken (.get id) = [] := by
  simp only [taken, picks, List.filter_false, List.map_nil]

/-- A session is found by its identifier if no other session has it. -/
theorem get_eq_ok_iff (h : (s.registered.map Session.id).Nodup) {x : Session} :
    s.get id = .ok x ↔ x ∈ s.registered ∧ x.id = id := by
  unfold get
  constructor
  · intro hget
    split at hget
    · next y hfind =>
      cases hget
      have hid := List.find?_some hfind
      exact ⟨List.mem_of_find?_eq_some hfind, by simpa using hid⟩
    · cases hget
  · rintro ⟨hmem, rfl⟩
    cases hfind : s.registered.find? (·.id == x.id) with
    | none =>
      rw [List.find?_eq_none] at hfind
      exact absurd (by simp) (hfind x hmem)
    | some y =>
      have hid : y.id = x.id := by simpa using List.find?_some hfind
      have heq := List.inj_on_of_nodup_map h (List.mem_of_find?_eq_some hfind) hmem hid
      rw [heq]

theorem get_eq_error_iff : s.get id = .error (.notFound id) ↔ id ∉ s.registered.map Session.id := by
  unfold get
  cases hfind : s.registered.find? (·.id == id) with
  | none =>
    rw [List.find?_eq_none] at hfind
    refine ⟨?_, fun _ => rfl⟩
    rintro - hmem
    obtain ⟨x, hx, rfl⟩ := List.mem_map.mp hmem
    exact hfind x hx (by simp)
  | some x =>
    have hid : x.id = id := by simpa using List.find?_some hfind
    have hmem : id ∈ s.registered.map Session.id :=
      List.mem_map.mpr ⟨x, List.mem_of_find?_eq_some hfind, hid⟩
    refine ⟨?_, fun hnot => absurd hmem hnot⟩
    intro hget
    cases hget

/-- A call to delete a session takes out no other one. -/
theorem taken_delete (hunique : (s.registered.map Session.id).Nodup)
    (h : id ∈ s.registered.map Session.id) : s.taken (.delete id) = [id] := by
  have hcount : (s.registered.map Session.id).count id = 1 := List.count_eq_one_of_mem hunique h
  have hids : s.taken (.delete id) = (s.registered.map Session.id).filter (· == id) := by
    rw [List.filter_map]
    rfl
  rw [hids, List.filter_beq, hcount]
  rfl

/-- A call to delete a session that is not registered takes out none. -/
theorem taken_delete_of_notMem (h : id ∉ s.registered.map Session.id) : s.taken (.delete id) = [] := by
  have hids : s.taken (.delete id) = (s.registered.map Session.id).filter (· == id) := by
    rw [List.filter_map]
    rfl
  rw [hids, List.filter_beq, List.count_eq_zero_of_not_mem h]
  rfl

/-- A call to delete a session that is not registered changes nothing. -/
theorem retire_of_notMem (h : id ∉ s.registered.map Session.id) : s.retire (·.id == id) = s := by
  have hother : ∀ x ∈ s.registered, (x.id == id) = false := by
    intro x hx
    rw [beq_eq_false_iff_ne]
    rintro rfl
    exact h (List.mem_map_of_mem hx)
  have hkept : (s.registered.filter fun x => !(x.id == id)) = s.registered := by
    rw [List.filter_eq_self]
    intro x hx
    rw [hother x hx]
    rfl
  have hnone : s.registered.filter (fun x => x.id == id) = [] := by
    rw [List.filter_eq_nil_iff]
    intro x hx
    rw [hother x hx]
    exact Bool.false_ne_true
  simp only [retire, hkept, hnone, List.append_nil]

/-! ## Sessions change under the register -/

/-- The change of one session, by its identifier. -/
def changeAt (id : Text) (f : Session → Session) (x : Session) : Session :=
  if x.id = id then f x else x

theorem update_registered (s : Store) (id : Text) (f : Session → Session) :
    (s.update id f).registered = s.registered.map (changeAt id f) := rfl

theorem update_retired (s : Store) (id : Text) (f : Session → Session) :
    (s.update id f).retired = s.retired.map (changeAt id f) := rfl

theorem map_entry_changeAt {f : Session → Session} {l : List Session}
    (h : ∀ x ∈ l, x.id = id → (f x).entry = x.entry) :
    (l.map (changeAt id f)).map Session.entry = l.map Session.entry := by
  rw [List.map_map, List.map_inj_left]
  intro x hx
  simp only [Function.comp_apply, changeAt]
  split
  · next hid => exact h x hx hid
  · rfl

/-- The two stores have the same sessions in the same places, each of them as open or closed as
before. -/
structure SameEntries (s s' : Store) : Prop where
  registered : s'.registered.map Session.entry = s.registered.map Session.entry
  retired : s'.retired.map Session.entry = s.retired.map Session.entry
  limit : s'.limit = s.limit
  ttl : s'.ttl = s.ttl

theorem sameEntries_update {f : Session → Session}
    (h : ∀ x ∈ s.registered ++ s.retired, x.id = id → (f x).entry = x.entry) :
    SameEntries s (s.update id f) where
  registered := map_entry_changeAt fun x hx => h x (List.mem_append_left _ hx)
  retired := map_entry_changeAt fun x hx => h x (List.mem_append_right _ hx)
  limit := rfl
  ttl := rfl

/-- A command changes neither the identifier of a session nor whether it is closed. -/
theorem sameEntries_command (h : ((s.registered ++ s.retired).map Session.id).Nodup) (id : Text)
    (x : Session.Step) : SameEntries s (s.command x.compiler x.now id x.command).2 := by
  unfold command
  cases hheld : s.held? id with
  | none => exact ⟨rfl, rfl, rfl, rfl⟩
  | some session =>
    have hmem := List.mem_of_find?_eq_some hheld
    have hid : session.id = id := by simpa using List.find?_some hheld
    apply sameEntries_update
    intro y hy hyid
    -- no other session has the identifier
    have hsame := List.inj_on_of_nodup_map h hy hmem (hyid.trans hid.symm)
    rw [hsame]
    exact session.entry_after x

theorem map_id_eq {l l' : List Session} (h : l'.map Session.entry = l.map Session.entry) :
    l'.map Session.id = l.map Session.id := by
  have hfst := congrArg (List.map Prod.fst) h
  rw [List.map_map, List.map_map] at hfst
  exact hfst

/-- What the books say of the sessions of one store holds of those of the other. -/
theorem forall_entry {l l' : List Session} (h : l'.map Session.entry = l.map Session.entry)
    {P : Text → Bool → Prop} (hall : ∀ x ∈ l, P x.id x.closed) : ∀ x ∈ l', P x.id x.closed := by
  intro x hx
  have hentry : x.entry ∈ l.map Session.entry := by
    rw [← h]
    exact List.mem_map_of_mem hx
  obtain ⟨y, hy, hyx⟩ := List.mem_map.mp hentry
  have hid : y.id = x.id := congrArg Prod.fst hyx
  have hclosed : y.closed = x.closed := congrArg Prod.snd hyx
  rw [← hid, ← hclosed]
  exact hall y hy

/-! ## Closing -/

theorem closeOne_registered (h : id ∉ s.registered.map Session.id) :
    (s.closeOne id).registered = s.registered := by
  have hother : ∀ x ∈ s.registered, changeAt id Session.close x = x := by
    intro x hx
    have hne : x.id ≠ id := by
      rintro rfl
      exact h (List.mem_map_of_mem hx)
    rw [changeAt, if_neg hne]
  rw [closeOne, update_registered, List.map_congr_left hother, List.map_id']

theorem map_id_closeOne_retired (s : Store) (id : Text) :
    (s.closeOne id).retired.map Session.id = s.retired.map Session.id := by
  rw [closeOne, update_retired, List.map_map, List.map_inj_left]
  intro x _
  simp only [Function.comp_apply, changeAt]
  split
  · exact x.id_close
  · rfl

/-- Closing sessions one after the other closes those that are named. -/
theorem foldl_closeOne (ids : List Text) (s : Store)
    (h : ∀ id ∈ ids, id ∉ s.registered.map Session.id) :
    ids.foldl closeOne s =
      { s with retired := s.retired.map fun x => if x.id ∈ ids then x.close else x } := by
  induction ids generalizing s with
  | nil =>
    simp only [List.foldl_nil, List.not_mem_nil, if_false, List.map_id']
  | cons id ids ih =>
    have hfirst := closeOne_registered (h id List.mem_cons_self)
    have hrest : ∀ id' ∈ ids, id' ∉ (s.closeOne id).registered.map Session.id := by
      intro id' hid'
      rw [hfirst]
      exact h id' (List.mem_cons_of_mem id hid')
    have hretired : ((s.closeOne id).retired.map fun x => if x.id ∈ ids then x.close else x) =
        s.retired.map fun x => if x.id ∈ id :: ids then x.close else x := by
      rw [closeOne, update_retired, List.map_map, List.map_inj_left]
      intro x _
      simp only [Function.comp_apply, changeAt, List.mem_cons]
      by_cases hid : x.id = id
      · -- closing a session twice closes it once
        have htwice : x.close.close = x.close := Session.close_of_closed x.closed_close
        simp only [hid, if_true, Session.id_close, htwice, ite_self, true_or]
      · simp only [hid, if_false, false_or]
    rw [List.foldl_cons, ih _ hrest, hretired]
    simp only [closeOne, update] at hfirst ⊢
    rw [hfirst]

/-- If everything that was taken out before is closed, closing what is taken out now closes everything
that was ever taken out. -/
theorem foldl_closeOne_retire (hunique : (s.registered.map Session.id).Nodup)
    (hclosed : ∀ x ∈ s.retired, x.closed = true) (p : Session → Bool) (cleaning : Bool) :
    ((s.registered.filter p).map Session.id).foldl closeOne { s.retire p with cleaning } =
      { (s.retire p).closeRetired with cleaning } := by
  have hgone : ∀ id ∈ (s.registered.filter p).map Session.id,
      id ∉ (s.retire p).registered.map Session.id := by
    intro id hid hkept
    obtain ⟨x, hx, rfl⟩ := List.mem_map.mp hid
    obtain ⟨y, hy, hyx⟩ := List.mem_map.mp hkept
    rw [retire_registered] at hy
    rw [List.mem_filter] at hx hy
    -- the two are one session, which cannot be both taken out and kept
    have hsame := List.inj_on_of_nodup_map hunique hy.1 hx.1 hyx
    rw [hsame, hx.2] at hy
    exact absurd hy.2 Bool.false_ne_true
  rw [foldl_closeOne _ { s.retire p with cleaning } hgone]
  simp only [closeRetired, retire_retired]
  congr 1
  rw [List.map_inj_left]
  intro x hx
  split
  · rfl
  · next hout =>
    rcases List.mem_append.mp hx with hold | hnew
    · exact (Session.close_of_closed (hclosed x hold)).symm
    · exact absurd (List.mem_map_of_mem hnew) hout

/-- A call that nobody disturbs does to the store what it does all at once. -/
theorem foldl_closeOne_enter (hunique : (s.registered.map Session.id).Nodup)
    (hclosed : ∀ x ∈ s.retired, x.closed = true) (c : StoreCall) :
    (s.taken c).foldl closeOne (s.enter c).1 = s.whole c := by
  have hretire := foldl_closeOne_retire hunique hclosed
  cases c with
  | create now random =>
    rw [taken_create]
    simp only [List.foldl_nil, enter, whole]
    cases s.create now random <;> rfl
  | get id =>
    rw [taken_get]
    rfl
  | delete id =>
    by_cases hid : id ∈ s.registered.map Session.id
    · obtain ⟨x, hx, hxid⟩ := List.mem_map.mp hid
      have hget := (get_eq_ok_iff hunique).mpr ⟨hx, hxid⟩
      simp only [whole, delete, hget]
      exact hretire (·.id == id) s.cleaning
    · simp only [whole, delete, get_eq_error_iff.mpr hid, taken_delete_of_notMem hid]
      exact retire_of_notMem hid
  | cleanup now => exact hretire (s.isExpired now) s.cleaning
  | stop => exact hretire (fun _ => true) false

end Store

end SyntaxPlayground
