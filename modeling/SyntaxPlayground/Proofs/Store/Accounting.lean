import Mathlib.Data.List.Perm.Basic
import SyntaxPlayground.Proofs.Store.Sharing

/-!
# No session is lost, and none is closed twice

What holds of a store that is shared, whatever its callers do and however they get in each other's way, as
long as no identifier is given out twice.

* `Balanced` is the invariant: the sessions ever created are those that are registered and those that were
  removed, and the latter are those that are still to be closed and those that were closed. Every move
  keeps it (`Balanced.next`).
* `Accounted` is what follows for the sessions, and `Answered` what follows for the callers.
* `sessions_accounted` puts both together, for every run.
-/

namespace SyntaxPlayground

namespace Sharing

variable {s s' : Sharing} {τ : List Move}

/-! ## The invariant -/

/-- The books agree with the store. -/
structure Balanced (s : Sharing) : Prop where
  limited : 0 < s.store.limit → (s.store.size : Int) ≤ s.store.limit
  created : s.created.Perm (s.store.registered.map Session.id ++ s.removed)
  removed : s.removed.Perm (s.awaiting.map Prod.snd ++ s.closings)
  retired : s.store.retired.map Session.id = s.removed
  isOpen : ∀ x ∈ s.store.registered, x.closed = false
  isClosed : ∀ x ∈ s.store.retired, (x.closed = true ↔ x.id ∈ s.closings)
  pending : ∀ p ∈ s.awaiting, ∃ reply, s.visits p.1 = .closing reply

theorem balanced_opening (unit : OffsetUnit) (ttl limit : Int) : (opening unit ttl limit).Balanced where
  limited := by
    intro hlimit
    exact Int.le_of_lt hlimit
  created := List.Perm.refl []
  removed := List.Perm.refl []
  retired := rfl
  isOpen := by
    intro x hx
    cases hx
  isClosed := by
    intro x hx
    cases hx
  pending := by
    intro p hp
    cases hp

theorem Balanced.nodup (h : s.Balanced) (hids : s.created.Nodup) :
    (s.store.registered.map Session.id ++ s.removed).Nodup :=
  h.created.nodup_iff.mp hids

/-- A session that was removed is not registered. -/
theorem Balanced.notMem_registered (h : s.Balanced) (hids : s.created.Nodup) {id : Text}
    (hid : id ∈ s.removed) : id ∉ s.store.registered.map Session.id := by
  intro hregistered
  exact List.disjoint_of_nodup_append (h.nodup hids) hregistered hid

theorem Balanced.mem_removed (h : s.Balanced) {id : Text} :
    id ∈ s.removed ↔ id ∈ s.awaiting.map Prod.snd ∨ id ∈ s.closings := by
  rw [h.removed.mem_iff, List.mem_append]

/-- What was created and not removed is registered. -/
theorem Balanced.mem_registered (h : s.Balanced) (hids : s.created.Nodup) {id : Text} :
    id ∈ s.store.registered.map Session.id ↔ id ∈ s.created ∧ id ∉ s.removed := by
  rw [h.created.mem_iff, List.mem_append]
  constructor
  · intro hregistered
    refine ⟨Or.inl hregistered, ?_⟩
    intro hremoved
    exact h.notMem_registered hids hremoved hregistered
  · rintro ⟨hregistered | hremoved, hnot⟩
    · exact hregistered
    · exact absurd hremoved hnot

/-! ## Moves keep the books -/

/-- A call that enters the store keeps the calls that still have something to close. -/
theorem Balanced.pending_enter (h : s.Balanced) {i : Nat} (hidle : s.visits i = .idle) (reply : StoreReply)
    (ids : List Text) : ∀ p ∈ s.awaiting ++ ids.map (fun id => (i, id)),
      ∃ r, Function.update s.visits i (.closing reply) p.1 = .closing r := by
  intro p hp
  rcases List.mem_append.mp hp with hold | hnew
  · obtain ⟨r, hr⟩ := h.pending p hold
    have hne : p.1 ≠ i := by
      intro heq
      rw [heq, hidle] at hr
      cases hr
    exact ⟨r, by rw [Function.update_of_ne hne, hr]⟩
  · obtain ⟨id, _, rfl⟩ := List.mem_map.mp hnew
    exact ⟨reply, Function.update_self _ _ _⟩

theorem append_append_perm {α : Type} (l₁ l₂ l₃ : List α) :
    (l₁ ++ l₂ ++ l₃).Perm (l₁ ++ (l₃ ++ l₂)) := by
  rw [List.append_assoc]
  exact List.perm_append_comm.append_left l₁

theorem registered_perm (l : List Session) (p : Session → Bool) :
    (l.map Session.id).Perm
      ((l.filter fun x => !p x).map Session.id ++ (l.filter p).map Session.id) := by
  have hsplit := (List.filter_append_perm p l).symm.map Session.id
  rw [List.map_append] at hsplit
  exact hsplit.trans List.perm_append_comm

theorem Balanced.enter (h : s.Balanced) (hids : s.created.Nodup) {i : Nat} (hidle : s.visits i = .idle)
    (c : StoreCall) : (s.next (.enter i c)).Balanced := by
  have hpending := h.pending_enter hidle
  rcases s.store.enter_cases c with ⟨now, random, rfl, hroom, id, ids, henter⟩ |
    ⟨now, random, rfl, henter⟩ | ⟨cleaning, reply, henter, hnew⟩
  · -- a session is created
    simp only [next, henter, Store.taken_create, List.map_nil, List.append_nil, StoreReply.newId]
    constructor
    · intro hlimit
      have hsize : ¬ s.store.limit ≤ s.store.size := fun hfull => hroom ⟨hlimit, hfull⟩
      simp only [Store.size, List.length_append, List.length_singleton] at hsize ⊢
      omega
    · rw [List.map_append, List.append_assoc]
      exact (h.created.append_right [id]).trans (append_append_perm _ _ _)
    · exact h.removed
    · exact h.retired
    · intro x hx
      rcases List.mem_append.mp hx with hold | hnew
      · exact h.isOpen x hold
      · rw [List.mem_singleton.mp hnew]
        rfl
    · exact h.isClosed
    · simpa using hpending (.created (.ok id)) []
  · -- there are too many sessions
    simp only [next, henter, Store.taken_create, List.map_nil, List.append_nil, StoreReply.newId]
    exact ⟨h.limited, h.created, h.removed, h.retired, h.isOpen, h.isClosed,
      by simpa using hpending (.created (.error (.limitReached s.store.limit))) []⟩
  · -- sessions are taken out
    simp only [next, henter, hnew, List.append_nil]
    constructor
    · intro hlimit
      have hbefore := h.limited hlimit
      have hless := List.length_filter_le (fun x => !s.store.picks c x) s.store.registered
      simp only [Store.size, Store.retire_registered, Store.retire_limit] at hbefore ⊢
      omega
    · have hsplit := (registered_perm s.store.registered (s.store.picks c)).append_right s.removed
      exact (h.created.trans hsplit).trans (append_append_perm _ _ _)
    · rw [List.map_append, List.map_map, List.append_assoc]
      have htaken : (s.store.taken c).map (Prod.snd ∘ fun id => (i, id)) = s.store.taken c :=
        List.map_id' _
      rw [htaken]
      exact (h.removed.append_right _).trans (append_append_perm _ _ _)
    · simp only [Store.retire_retired, List.map_append, h.retired, Store.taken]
    · intro x hx
      exact h.isOpen x (List.mem_of_mem_filter hx)
    · intro x hx
      rcases List.mem_append.mp hx with hold | hnew
      · exact h.isClosed x hold
      · -- it was registered until now, so nobody has closed it
        have hregistered := List.mem_of_mem_filter hnew
        rw [h.isOpen x hregistered]
        refine ⟨fun hfalse => absurd hfalse Bool.false_ne_true, ?_⟩
        intro hclosed
        have hremoved := h.mem_removed.mpr (Or.inr hclosed)
        exact absurd (List.mem_map_of_mem hregistered) (h.notMem_registered hids hremoved)
    · exact hpending reply (s.store.taken c)

theorem Balanced.close (h : s.Balanced) (hids : s.created.Nodup) {i : Nat} {id : Text}
    (hawaiting : (i, id) ∈ s.awaiting) : (s.next (.close i id)).Balanced := by
  have hid : id ∈ s.removed := h.mem_removed.mpr (Or.inl (List.mem_map_of_mem hawaiting))
  have hregistered := Store.closeOne_registered (h.notMem_registered hids hid)
  constructor
  · intro hlimit
    have hbefore := h.limited hlimit
    simp only [Store.size] at hbefore
    simp only [next, Store.size, hregistered]
    exact hbefore
  · simp only [next, hregistered]
    exact h.created
  · have hone := (List.perm_cons_erase hawaiting).map Prod.snd
    have hboth := h.removed.trans (hone.append_right s.closings)
    refine hboth.trans ?_
    simp only [next, List.map_cons, List.cons_append]
    rw [← List.append_assoc]
    exact (List.perm_append_singleton id _).symm
  · simp only [next, Store.map_id_closeOne_retired]
    exact h.retired
  · simp only [next, hregistered]
    exact h.isOpen
  · intro x hx
    simp only [next, Store.closeOne, Store.update_retired, List.mem_map] at hx
    obtain ⟨y, hy, rfl⟩ := hx
    have hbefore := h.isClosed y hy
    simp only [next, List.mem_append, List.mem_singleton, Store.changeAt]
    split
    · next hyid => simp [hyid]
    · next hyid => simpa [hyid] using hbefore
  · intro p hp
    exact h.pending p (List.mem_of_mem_erase hp)

theorem Balanced.back (h : s.Balanced) {i : Nat} (he : s.Enabled (.back i)) :
    (s.next (.back i)).Balanced := by
  obtain ⟨⟨reply, hreply⟩, hnone⟩ := he
  have hpending : ∀ p ∈ s.awaiting,
      ∃ r, Function.update s.visits i (.returned reply) p.1 = .closing r := by
    intro p hp
    obtain ⟨r, hr⟩ := h.pending p hp
    exact ⟨r, by rw [Function.update_of_ne (hnone p hp), hr]⟩
  simp only [next, hreply]
  exact ⟨h.limited, h.created, h.removed, h.retired, h.isOpen, h.isClosed, hpending⟩

/-- What changes the sessions but not what the books say about them keeps the books. -/
theorem Balanced.of_sameEntries (h : s.Balanced) {store : Store} (hsame : s.store.SameEntries store) :
    Balanced { s with store } := by
  have hregistered := Store.map_id_eq hsame.registered
  have hretired := Store.map_id_eq hsame.retired
  have hsize : store.size = s.store.size := by
    have hlength := congrArg List.length hregistered
    rw [List.length_map, List.length_map] at hlength
    exact hlength
  constructor
  · simp only [hsame.limit, hsize]
    exact h.limited
  · simp only [hregistered]
    exact h.created
  · exact h.removed
  · simp only [hretired]
    exact h.retired
  · exact Store.forall_entry (P := fun _ closed => closed = false) hsame.registered h.isOpen
  · exact Store.forall_entry (P := fun id closed => closed = true ↔ id ∈ s.closings) hsame.retired
      h.isClosed
  · exact h.pending

/-- Every move keeps the books. -/
theorem Balanced.next (h : s.Balanced) (hids : s.created.Nodup) {e : Move} (he : s.Enabled e) :
    (s.next e).Balanced := by
  cases e with
  | enter i c => exact h.enter hids he c
  | close i id => exact h.close hids he
  | back i => exact h.back he
  | command id x =>
    have hnodup : ((s.store.registered ++ s.store.retired).map Session.id).Nodup := by
      rw [List.map_append, h.retired]
      exact h.nodup hids
    exact h.of_sameEntries (Store.sameEntries_command hnodup id x)
  | touch id now =>
    apply h.of_sameEntries
    apply Store.sameEntries_update
    intro x _ _
    rfl

/-- Identifiers are only ever added. -/
theorem nodup_of_nodup_next {e : Move} (hids : (s.next e).created.Nodup) : s.created.Nodup := by
  cases e with
  | enter i c =>
    simp only [next] at hids
    exact (List.nodup_append.mp hids).1
  | back i =>
    simp only [next] at hids
    split at hids <;> exact hids
  | close i id => exact hids
  | command id x => exact hids
  | touch id now => exact hids

/-- No move changes the limit or the time to live. -/
theorem settings_next (s : Sharing) (e : Move) :
    (s.next e).store.limit = s.store.limit ∧ (s.next e).store.ttl = s.store.ttl := by
  cases e with
  | enter i c =>
    have hstore : (s.next (.enter i c)).store = (s.store.enter c).1 := rfl
    rw [hstore]
    rcases s.store.enter_cases c with ⟨now, random, _, _, id, ids, henter⟩ | ⟨now, random, _, henter⟩ |
      ⟨cleaning, reply, henter, _⟩
    · rw [henter]
      exact ⟨rfl, rfl⟩
    · rw [henter]
      exact ⟨rfl, rfl⟩
    · rw [henter]
      exact ⟨rfl, rfl⟩
  | back i =>
    simp only [next]
    split <;> exact ⟨rfl, rfl⟩
  | close i id => exact ⟨rfl, rfl⟩
  | command id x =>
    simp only [next, Store.command]
    split <;> exact ⟨rfl, rfl⟩
  | touch id now => exact ⟨rfl, rfl⟩

theorem Runs.balanced {unit : OffsetUnit} {ttl limit : Int} (h : Runs (opening unit ttl limit) τ s)
    (hids : s.created.Nodup) : s.Balanced := by
  induction h with
  | nil => exact balanced_opening unit ttl limit
  | snoc _ he ih =>
    have hbefore := nodup_of_nodup_next hids
    exact (ih hbefore).next hbefore he

theorem Runs.settings {unit : OffsetUnit} {ttl limit : Int} (h : Runs (opening unit ttl limit) τ s) :
    s.store.limit = limit ∧ s.store.ttl = ttl := by
  induction h with
  | nil => exact ⟨rfl, rfl⟩
  | @snoc _ m _ e _ ih =>
    have hsame := m.settings_next e
    exact ⟨hsame.1.trans ih.1, hsame.2.trans ih.2⟩

/-! ## What becomes of a session -/

/-- What can become of a session: it is registered, it awaits being closed by the call that took it out, or
it was closed. -/
inductive Fate where
  | registered
  | awaiting (i : Nat)
  | closed

/-- What became of the session with the given identifier. -/
def HasFate (s : Sharing) (id : Text) : Fate → Prop
  | .registered => id ∈ s.store.registered.map Session.id
  | .awaiting i => (i, id) ∈ s.awaiting
  | .closed => id ∈ s.closings

/-- Every session is accounted for. -/
structure Accounted (s : Sharing) : Prop where
  /-- There are not more sessions than there may be. -/
  limited : 0 < s.store.limit → (s.store.size : Int) ≤ s.store.limit
  /-- A session that is registered is found under its own identifier, and nobody has closed it. -/
  registered : ∀ x ∈ s.store.registered,
    s.store.get x.id = .ok x ∧ x.closed = false ∧ x.id ∉ s.closings
  /-- Every session that was ever created, and no other one, has one fate. -/
  fates : ∀ id, (id ∈ s.created → ∃! f, s.HasFate id f) ∧ ∀ f, s.HasFate id f → id ∈ s.created
  /-- No session is to be closed twice, or was. -/
  once : (s.awaiting.map Prod.snd ++ s.closings).Nodup
  /-- Of the sessions that were taken out, those are closed that the store has closed. -/
  retired : ∀ x ∈ s.store.retired, (x.closed = true ↔ x.id ∈ s.closings)
  /-- A call that took out a session does not come back before it has closed it. -/
  pending : ∀ p ∈ s.awaiting, ∃ reply, s.visits p.1 = .closing reply

theorem Balanced.fate_unique (h : s.Balanced) (hids : s.created.Nodup) {id : Text} {f g : Fate}
    (hf : s.HasFate id f) (hg : s.HasFate id g) : f = g := by
  have hremoved : (s.awaiting.map Prod.snd ++ s.closings).Nodup :=
    h.removed.nodup_iff.mp (List.nodup_append.mp (h.nodup hids)).2.1
  have hawaiting : ∀ {i}, (i, id) ∈ s.awaiting → id ∈ s.awaiting.map Prod.snd :=
    fun hi => List.mem_map_of_mem hi
  have hgone : id ∈ s.awaiting.map Prod.snd ∨ id ∈ s.closings →
      id ∉ s.store.registered.map Session.id :=
    fun hout => h.notMem_registered hids (h.mem_removed.mpr hout)
  have hapart : id ∈ s.awaiting.map Prod.snd → id ∉ s.closings :=
    fun hout hclosed => List.disjoint_of_nodup_append hremoved hout hclosed
  cases f with
  | registered =>
    cases g with
    | registered => rfl
    | awaiting j => exact absurd hf (hgone (Or.inl (hawaiting hg)))
    | closed => exact absurd hf (hgone (Or.inr hg))
  | awaiting i =>
    cases g with
    | registered => exact absurd hg (hgone (Or.inl (hawaiting hf)))
    | awaiting j =>
      -- no identifier waits twice, so the call is the same
      have hnodup := (List.nodup_append.mp hremoved).1
      have hpair := List.inj_on_of_nodup_map hnodup hf hg rfl
      cases hpair
      rfl
    | closed => exact absurd hg (hapart (hawaiting hf))
  | closed =>
    cases g with
    | registered => exact absurd hg (hgone (Or.inr hf))
    | awaiting j => exact absurd hf (hapart (hawaiting hg))
    | closed => rfl

theorem Balanced.exists_fate (h : s.Balanced) {id : Text} : id ∈ s.created ↔ ∃ f, s.HasFate id f := by
  rw [h.created.mem_iff, List.mem_append, h.mem_removed]
  constructor
  · rintro (hregistered | hawaiting | hclosed)
    · exact ⟨.registered, hregistered⟩
    · obtain ⟨⟨i, _⟩, hi, rfl⟩ := List.mem_map.mp hawaiting
      exact ⟨.awaiting i, hi⟩
    · exact ⟨.closed, hclosed⟩
  · rintro ⟨f, hf⟩
    cases f with
    | registered => exact Or.inl hf
    | awaiting i => exact Or.inr (Or.inl (List.mem_map_of_mem hf))
    | closed => exact Or.inr (Or.inr hf)

theorem Balanced.accounted (h : s.Balanced) (hids : s.created.Nodup) : s.Accounted where
  limited := h.limited
  registered := by
    intro x hx
    have hunique := (List.nodup_append.mp (h.nodup hids)).1
    refine ⟨(Store.get_eq_ok_iff hunique).mpr ⟨hx, rfl⟩, h.isOpen x hx, ?_⟩
    intro hclosed
    have hremoved := h.mem_removed.mpr (Or.inr hclosed)
    exact h.notMem_registered hids hremoved (List.mem_map_of_mem hx)
  fates := by
    intro id
    constructor
    · intro hid
      obtain ⟨f, hf⟩ := h.exists_fate.mp hid
      exact ⟨f, hf, fun g hg => h.fate_unique hids hg hf⟩
    · intro f hf
      exact h.exists_fate.mpr ⟨f, hf⟩
  once := h.removed.nodup_iff.mp (List.nodup_append.mp (h.nodup hids)).2.1
  retired := h.isClosed
  pending := h.pending

/-! ## What a call is answered -/

/-- The state after a call that does nothing but to get its reply. -/
def replied (s : Sharing) (i : Nat) (reply : StoreReply) : Sharing :=
  { s with visits := Function.update s.visits i (.closing reply) }

/-- What the calls are answered, and what they do. -/
structure Answered (s : Sharing) : Prop where
  /-- A session is found from its creation until its removal. -/
  get : ∀ i id, if id ∈ s.created ∧ id ∉ s.removed
    then ∃ x ∈ s.store.registered, x.id = id ∧ s.next (.enter i (.get id)) = s.replied i (.found (.ok x))
    else s.next (.enter i (.get id)) = s.replied i (.found (.error (.notFound id)))
  /-- It can be deleted as long as it is found; otherwise nothing changes. -/
  delete : ∀ i id, if id ∈ s.created ∧ id ∉ s.removed
    then s.next (.enter i (.delete id)) =
      { s.replied i (.deleted (.ok ())) with
        store := s.store.retire (·.id == id)
        awaiting := s.awaiting ++ [(i, id)]
        removed := s.removed ++ [id] }
    else s.next (.enter i (.delete id)) = s.replied i (.deleted (.error (.notFound id)))
  /-- The sessions that have been idle for longer than their time to live are taken out and counted. -/
  cleanup : ∀ i now,
    let expired := s.store.registered.filter fun x => s.store.ttl < now - x.lastActive
    let kept := s.store.registered.filter fun x => now - x.lastActive ≤ s.store.ttl
    s.next (.enter i (.cleanup now)) =
      { s.replied i (.cleaned expired.length) with
        store := { s.store with registered := kept, retired := s.store.retired ++ expired }
        awaiting := s.awaiting ++ expired.map fun x => (i, x.id)
        removed := s.removed ++ expired.map Session.id }
  /-- A session is refused if there are already as many as there may be; then nothing changes. -/
  create : ∀ i now random, if 0 < s.store.limit ∧ (s.store.size : Int) = s.store.limit
    then s.next (.enter i (.create now random)) =
      s.replied i (.created (.error (.limitReached s.store.limit)))
    else ∃ id ids, s.next (.enter i (.create now random)) =
      { s.replied i (.created (.ok id)) with
        store := { s.store with ids, registered := s.store.registered ++ [.new id s.store.unit now] }
        created := s.created ++ [id] }

/-- What a call does while it has the store to itself. -/
theorem next_enter (s : Sharing) (i : Nat) (c : StoreCall) :
    s.next (.enter i c) =
      { s.replied i (s.store.enter c).2 with
        store := (s.store.enter c).1
        awaiting := s.awaiting ++ (s.store.taken c).map fun id => (i, id)
        created := s.created ++ (s.store.enter c).2.newId
        removed := s.removed ++ s.store.taken c } := rfl

/-- A call that takes nothing out and creates nothing changes nothing. -/
theorem next_enter_of_same {c : StoreCall} {reply : StoreReply} (henter : s.store.enter c = (s.store, reply))
    (htaken : s.store.taken c = []) (hnew : reply.newId = []) (i : Nat) :
    s.next (.enter i c) = s.replied i reply := by
  simp only [next_enter, henter, htaken, hnew, List.map_nil, List.append_nil]
  rfl

theorem Balanced.answered (h : s.Balanced) (hids : s.created.Nodup) : s.Answered := by
  have hunique := (List.nodup_append.mp (h.nodup hids)).1
  have hfound : ∀ id, id ∈ s.store.registered.map Session.id ↔ id ∈ s.created ∧ id ∉ s.removed := by
    intro id
    exact h.mem_registered hids
  constructor
  · intro i id
    have hreply : s.next (.enter i (.get id)) = s.replied i (.found (s.store.get id)) :=
      next_enter_of_same rfl (s.store.taken_get id) rfl i
    rw [hreply]
    split
    · next hid =>
      obtain ⟨x, hx, hxid⟩ := List.mem_map.mp ((hfound id).mpr hid)
      refine ⟨x, hx, hxid, ?_⟩
      rw [(Store.get_eq_ok_iff hunique).mpr ⟨hx, hxid⟩]
    · next hid =>
      have hmissing : id ∉ s.store.registered.map Session.id := fun hmem => hid ((hfound id).mp hmem)
      rw [Store.get_eq_error_iff.mpr hmissing]
  · intro i id
    split
    · next hid =>
      have hmem := (hfound id).mpr hid
      obtain ⟨x, hx, hxid⟩ := List.mem_map.mp hmem
      have hget := (Store.get_eq_ok_iff hunique).mpr ⟨hx, hxid⟩
      simp only [next_enter, Store.enter, hget, Store.taken_delete hunique hmem, StoreReply.newId,
        List.append_nil]
      rfl
    · next hid =>
      have hmissing : id ∉ s.store.registered.map Session.id := fun hmem => hid ((hfound id).mp hmem)
      refine next_enter_of_same ?_ (Store.taken_delete_of_notMem hmissing) rfl i
      have hsame := Store.retire_of_notMem hmissing
      simp only [Store.enter, Store.picks, hsame, Store.get_eq_error_iff.mpr hmissing]
      rfl
  · intro i now expired kept
    have hkept : (s.store.registered.filter fun x => !s.store.isExpired now x) = kept := by
      apply List.filter_congr
      intro x _
      simp only [Store.isExpired, ← decide_not, Int.not_lt]
    have htaken : (s.store.taken (.cleanup now)).map (fun id => (i, id)) =
        expired.map fun x => (i, x.id) := List.map_map
    simp only [next_enter, htaken, Store.enter, Store.picks, Store.retire, hkept, StoreReply.newId,
      List.append_nil]
    rfl
  · intro i now random
    split
    · next hfull =>
      have hfull' : 0 < s.store.limit ∧ s.store.limit ≤ s.store.size := ⟨hfull.1, Int.le_of_eq hfull.2.symm⟩
      exact next_enter_of_same (Store.enter_create_of_full hfull' now random)
        (s.store.taken_create now random) rfl i
    · next hroom =>
      have hroom' : ¬ (0 < s.store.limit ∧ s.store.limit ≤ s.store.size) := by
        rintro ⟨hlimit, hfull⟩
        exact hroom ⟨hlimit, Int.le_antisymm (h.limited hlimit) hfull⟩
      obtain ⟨id, ids, henter⟩ := Store.enter_create_of_room hroom' now random
      refine ⟨id, ids, ?_⟩
      simp only [next_enter, henter, Store.taken_create, StoreReply.newId, List.map_nil, List.append_nil]
      rfl

/-- A call comes back with the reply that it got while it had the store to itself. -/
theorem reply?_next {e : Move} (he : s.Enabled e) {i : Nat} {reply : StoreReply}
    (hreply : (s.visits i).reply? = some reply) : ((s.next e).visits i).reply? = some reply := by
  cases e with
  | enter j c =>
    have hne : i ≠ j := by
      rintro rfl
      rw [show s.visits i = .idle from he] at hreply
      cases hreply
    have hvisits : (s.next (.enter j c)).visits i = s.visits i := Function.update_of_ne hne _ _
    rw [hvisits]
    exact hreply
  | back j =>
    obtain ⟨⟨r, hr⟩, _⟩ := he
    simp only [next, hr]
    by_cases hij : i = j
    · subst hij
      rw [hr] at hreply
      rw [Function.update_self]
      exact hreply
    · rw [Function.update_of_ne hij]
      exact hreply
  | close j id => exact hreply
  | command id x => exact hreply
  | touch id now => exact hreply

theorem Runs.reply? (h : Runs s τ s') {i : Nat} {reply : StoreReply}
    (hreply : (s.visits i).reply? = some reply) : (s'.visits i).reply? = some reply := by
  induction h with
  | nil => exact hreply
  | snoc _ he ih => exact reply?_next he ih

/-! ## All together -/

/-- In every interleaving of the callers of a new store that is given no identifier twice: every session is
accounted for; a call is answered what the books say, and comes back with that; and a call that nobody
disturbs does to the store what it does all at once. -/
theorem sessions_accounted {unit : OffsetUnit} {ttl limit : Int} (h : Runs (opening unit ttl limit) τ s)
    (hids : s.created.Nodup) :
    s.store.limit = limit ∧ s.store.ttl = ttl ∧ s.Accounted ∧ s.Answered ∧
    (∀ i reply, (s.visits i).reply? = some reply →
      ∀ τ' s', Runs s τ' s' → (s'.visits i).reply? = some reply) ∧
    (s.awaiting = [] → ∀ c, (s.store.taken c).foldl Store.closeOne (s.store.enter c).1 = s.store.whole c) := by
  have hbalanced := h.balanced hids
  refine ⟨h.settings.1, h.settings.2, hbalanced.accounted hids, hbalanced.answered hids, ?_, ?_⟩
  · intro i reply hreply τ' s' h'
    exact h'.reply? hreply
  · intro hnone c
    have hunique := (List.nodup_append.mp (hbalanced.nodup hids)).1
    have hclosed : ∀ x ∈ s.store.retired, x.closed = true := by
      intro x hx
      have hremoved : x.id ∈ s.removed := by
        rw [← hbalanced.retired]
        exact List.mem_map_of_mem hx
      rw [hbalanced.mem_removed, hnone] at hremoved
      rcases hremoved with hnever | hclosing
      · cases hnever
      · exact (hbalanced.isClosed x hx).mpr hclosing
    exact Store.foldl_closeOne_enter hunique hclosed c

/-! ## A crowded store -/

/-- The identifier of the first session that a store creates at the time 0. -/
def firstId : Text :=
  SessionId.encode (SessionId.Source.bytes 0 1 fun _ => 0)

/-- A store for one session. Its session is deleted, and before it is closed somebody creates another one
and somebody else tries to delete the first one once more. -/
def crowdedMoves : List Move :=
  [.enter 0 (.create 0 fun _ => 0), .enter 1 (.delete firstId), .enter 2 (.create 5000000 fun _ => 0),
    .enter 3 (.delete firstId), .back 3, .close 1 firstId, .back 1]

theorem runs_crowdedMoves :
    Runs (opening .rune 10 1) crowdedMoves (crowdedMoves.foldl next (opening .rune 10 1)) := by
  have hstart : Runs (opening .rune 10 1) [] (opening .rune 10 1) := .nil
  have hentered := (((hstart.snoc (e := .enter 0 (.create 0 fun _ => 0)) rfl).snoc
    (e := .enter 1 (.delete firstId)) rfl).snoc (e := .enter 2 (.create 5000000 fun _ => 0)) rfl).snoc
    (e := .enter 3 (.delete firstId)) rfl
  have hmissed := hentered.snoc (e := .back 3) ⟨⟨_, rfl⟩, by decide⟩
  exact (hmissed.snoc (e := .close 1 firstId) List.mem_cons_self).snoc (e := .back 1) ⟨⟨_, rfl⟩, by decide⟩

/-- The store never has two sessions; the first one is closed once, by the call that deleted it, and the
call that came too late is told that there is no such session. -/
theorem sessions_accounted_crowded :
    ∃ s, Runs (opening .rune 10 1) crowdedMoves s ∧ s.created.Nodup ∧ s.created.length = 2 ∧
      s.store.size = 1 ∧ s.closings = [firstId] ∧
      s.visits 1 = .returned (.deleted (.ok ())) ∧
      s.visits 3 = .returned (.deleted (.error (.notFound firstId))) ∧
      (∃! f, s.HasFate firstId f) ∧ s.HasFate firstId .closed ∧
      s.next (.enter 4 (.create 0 fun _ => 0)) = s.replied 4 (.created (.error (.limitReached 1))) := by
  have hids : (crowdedMoves.foldl next (opening .rune 10 1)).created.Nodup := by decide
  obtain ⟨_, _, haccounted, hanswered, _⟩ := sessions_accounted runs_crowdedMoves hids
  have hfirst : firstId ∈ (crowdedMoves.foldl next (opening .rune 10 1)).created := by decide
  have hfull := hanswered.create 4 0 fun _ => 0
  rw [if_pos ⟨by decide, by decide⟩] at hfull
  exact ⟨_, runs_crowdedMoves, hids, by decide, by decide, by decide, rfl, rfl,
    (haccounted.fates firstId).1 hfirst, List.mem_cons_self, hfull⟩

end Sharing

end SyntaxPlayground
