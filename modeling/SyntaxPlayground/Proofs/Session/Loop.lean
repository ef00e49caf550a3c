import Mathlib.Data.List.Induction
import Mathlib.Logic.Function.Basic
import SyntaxPlayground.Proofs.Session.Step

/-!
# The loop that serves a session

Any number of callers hand commands to the one loop of a session, and any number of others close it. A
caller offers its command until the loop takes it, the session is told to quit, or the caller's own
context ends; then it waits for the loop to finish the command. The loop chooses between the offers and
the signal to quit, so it may still take a command after that signal. On the signal it unbinds the page
and stops, and whoever closes the session waits for that.

`Serving` is the state of all of them, `Serving.Enabled` and `Serving.next` say what may happen next and
what it does, and `Serving.Runs` are the interleavings. The invariant of a single call is `Phase`: what has
happened to it so far, told by where it stands now.
-/

namespace SyntaxPlayground

/-! ## Callers, closers and the loop -/

/-- One call of a command. Loading a sample that does not exist fails before it becomes a call. -/
structure Call where
  step : Session.Step
  known : ∀ name, step.command = .loadSample name → ∃ sample, Catalog.builtin.get name = .ok sample

/-- How a call ends: its command has run, the session was closed, or its context has ended. -/
inductive Ending where
  | ran (answer : Except SessionError Answer)
  | refused
  | abandoned (r : Interruption)

/-- Where a call stands. -/
inductive Stage where
  | idle
  /-- It waits for the loop, the signal to quit or the end of its context. -/
  | offering
  /-- The loop has taken its command. -/
  | sent
  /-- It has noted the time, and waits for the loop to finish the command. -/
  | waiting
  | returned (e : Ending)

/-- Where the loop stands. -/
inductive Turn where
  | choosing
  | holding (i : Nat)
  | running (i : Nat)
  /-- It has seen the signal to quit. -/
  | leaving
  /-- It has unbound the page. -/
  | unbound
  | ended
deriving DecidableEq

/-- What the loop has to do with a call. -/
inductive Hold where
  | none
  | held
  | running

/-- What the loop has to do with a call, told by where it stands. -/
def Turn.hold (t : Turn) (i : Nat) : Hold :=
  match t with
  | .holding j => if j = i then .held else .none
  | .running j => if j = i then .running else .none
  | .choosing | .leaving | .unbound | .ended => .none

/-- Where somebody stands who closes the session. -/
inductive Closing where
  | idle
  | waiting
  | returned

/-- A session that is served, with everybody who has to do with it. -/
structure Serving where
  session : Session
  turn : Turn := .choosing
  calls : Nat → Stage := fun _ => .idle
  /-- What the commands that are finished have answered. -/
  done : Nat → Option (Except SessionError Answer) := fun _ => none
  /-- Which contexts have ended, and why. -/
  interrupted : Nat → Option Interruption := fun _ => none
  closers : Nat → Closing := fun _ => .idle
  /-- The signal to quit. -/
  quit : Bool := false

/-- What can happen next. -/
inductive Happening where
  /-- A call begins. -/
  | call (i : Nat)
  /-- The context of a call ends. -/
  | interrupt (i : Nat) (r : Interruption)
  /-- The loop takes the command that a call offers. -/
  | send (i : Nat)
  /-- A call ends because the session is closed. -/
  | refuse (i : Nat)
  /-- A call ends because its context has ended. -/
  | abandon (i : Nat) (r : Interruption)
  /-- A caller notes the time. -/
  | touch (i : Nat)
  /-- The loop begins to run a command. -/
  | begin (i : Nat)
  /-- The loop finishes a command. -/
  | finish (i : Nat)
  /-- A call ends with the answer to its command. -/
  | back (i : Nat) (answer : Except SessionError Answer)
  /-- Somebody closes the session. -/
  | close (c : Nat)
  /-- The loop sees the signal to quit. -/
  | leave
  /-- The loop unbinds the page. -/
  | unbind
  /-- The loop ends. -/
  | stop
  /-- Somebody who closed the session is told that the loop has ended. -/
  | closed (c : Nat)

namespace Happening

/-- The call whose course something is part of. Noting the time is not. -/
def call? : Happening → Option Nat
  | call i | send i | refuse i | abandon i _ | begin i | finish i | back i _ => some i
  | interrupt .. | touch _ | close _ | leave | unbind | stop | closed _ => none

/-- The call whose command is finished. -/
def finished? : Happening → Option Nat
  | finish i => some i
  | _ => none

/-- The loop begins or finishes a command. -/
def isWork : Happening → Bool
  | begin _ | finish _ => true
  | _ => false

end Happening

namespace Serving

/-- A new session, with nobody there yet. -/
def opening (id : Text) (unit : OffsetUnit) (start : Int) : Serving :=
  { session := .new id unit start }

/-- What may happen next. -/
def Enabled (s : Serving) : Happening → Prop
  | .call i => s.calls i = .idle
  | .interrupt i _ => s.interrupted i = none
  | .send i => s.calls i = .offering ∧ s.turn = .choosing
  | .refuse i => s.calls i = .offering ∧ s.quit = true
  | .abandon i r => s.calls i = .offering ∧ s.interrupted i = some r
  | .touch i => s.calls i = .sent
  | .begin i => s.turn = .holding i
  | .finish i => s.turn = .running i
  | .back i answer => s.calls i = .waiting ∧ s.done i = some answer
  | .close c => s.closers c = .idle
  | .leave => s.turn = .choosing ∧ s.quit = true
  | .unbind => s.turn = .leaving
  | .stop => s.turn = .unbound
  | .closed c => s.closers c = .waiting ∧ s.turn = .ended

/-- What it does. Nobody else looks at the session while the loop runs a command, so all that the
command does is done when it is finished. -/
def next (asks : Nat → Call) (s : Serving) : Happening → Serving
  | .call i => { s with calls := Function.update s.calls i .offering }
  | .interrupt i r => { s with interrupted := Function.update s.interrupted i (some r) }
  | .send i => { s with calls := Function.update s.calls i .sent, turn := .holding i }
  | .refuse i => { s with calls := Function.update s.calls i (.returned .refused) }
  | .abandon i r => { s with calls := Function.update s.calls i (.returned (.abandoned r)) }
  | .touch i =>
    { s with
      calls := Function.update s.calls i .waiting
      session := s.session.touched (asks i).step.now }
  | .begin i => { s with turn := .running i }
  | .finish i =>
    let result := Session.execute (asks i).step.compiler s.session (asks i).step.command
    { s with
      session := result.2
      turn := .choosing
      done := Function.update s.done i (some result.1) }
  | .back i answer => { s with calls := Function.update s.calls i (.returned (.ran answer)) }
  | .close c => { s with closers := Function.update s.closers c .waiting, quit := true }
  | .leave => { s with turn := .leaving }
  | .unbind => { s with session := s.session.close, turn := .unbound }
  | .stop => { s with turn := .ended }
  | .closed c => { s with closers := Function.update s.closers c .returned }

/-- One state leads to another by what has happened in between. -/
inductive Runs (asks : Nat → Call) (s : Serving) : List Happening → Serving → Prop where
  | nil : Runs asks s [] s
  | snoc {τ : List Happening} {m : Serving} (h : Runs asks s τ m) {e : Happening} (he : m.Enabled e) :
      Runs asks s (τ ++ [e]) (m.next asks e)

variable {asks : Nat → Call} {s s' m : Serving} {τ τ' : List Happening}

theorem Runs.trans (h : Runs asks s τ m) (h' : Runs asks m τ' s') : Runs asks s (τ ++ τ') s' := by
  induction h' with
  | nil =>
    rw [List.append_nil]
    exact h
  | snoc _ he ih =>
    rw [← List.append_assoc]
    exact ih.snoc he

/-- A run can be cut anywhere. -/
theorem Runs.exists_of_append (h : Runs asks s (τ ++ τ') s') :
    ∃ m, Runs asks s τ m ∧ Runs asks m τ' s' := by
  induction τ' using List.reverseRecOn generalizing s' with
  | nil =>
    rw [List.append_nil] at h
    exact ⟨s', h, .nil⟩
  | append_singleton τ' e ih =>
    rw [← List.append_assoc] at h
    generalize hword : τ ++ τ' ++ [e] = word at h
    cases h with
    | nil => exact absurd hword (List.append_ne_nil_of_right_ne_nil _ (List.cons_ne_nil e []))
    | snoc h he =>
      rcases List.append_inj' hword rfl with ⟨hinit, hlast⟩
      cases hlast
      subst hinit
      rcases ih h with ⟨m, hm, hm'⟩
      exact ⟨m, hm, hm'.snoc he⟩

theorem Runs.eq_of_nil {word : List Happening} (h : Runs asks s word s') (hnil : word = []) : s' = s := by
  cases h with
  | nil => rfl
  | snoc _ _ => exact absurd hnil (List.append_ne_nil_of_right_ne_nil _ (List.cons_ne_nil _ []))

/-- What a run begins with may happen at its beginning. -/
theorem Runs.enabled_of_cons {word : List Happening} (h : Runs asks s word s') {e : Happening}
    (hword : word = e :: τ) : s.Enabled e := by
  induction h generalizing τ with
  | nil => cases hword
  | @snoc word m h e' he ih =>
    cases word with
    | nil =>
      cases hword
      rw [← h.eq_of_nil rfl]
      exact he
    | cons first rest =>
      cases hword
      exact ih rfl

/-! ## The course of one call -/

/-- What has happened to a call. -/
def course (i : Nat) (τ : List Happening) : List Happening :=
  τ.filter fun e => e.call? = some i

/-- The course of a call, told by where it stands, whether it is done and what the loop has to do with
it. -/
inductive Phase (s : Serving) (i : Nat) : List Happening → Prop where
  | idle (hcall : s.calls i = .idle) (hdone : s.done i = none) (hhold : s.turn.hold i = .none) : Phase s i []
  | offering (hcall : s.calls i = .offering) (hdone : s.done i = none) (hhold : s.turn.hold i = .none) :
      Phase s i [.call i]
  | held (hcall : s.calls i = .sent ∨ s.calls i = .waiting) (hdone : s.done i = none)
      (hhold : s.turn.hold i = .held) : Phase s i [.call i, .send i]
  | running (hcall : s.calls i = .sent ∨ s.calls i = .waiting) (hdone : s.done i = none)
      (hhold : s.turn.hold i = .running) : Phase s i [.call i, .send i, .begin i]
  | served {answer : Except SessionError Answer} (hcall : s.calls i = .sent ∨ s.calls i = .waiting)
      (hdone : s.done i = some answer) (hhold : s.turn.hold i = .none) :
      Phase s i [.call i, .send i, .begin i, .finish i]
  | ran {answer : Except SessionError Answer} (hcall : s.calls i = .returned (.ran answer))
      (hdone : s.done i = some answer) (hhold : s.turn.hold i = .none) :
      Phase s i [.call i, .send i, .begin i, .finish i, .back i answer]
  | refused (hcall : s.calls i = .returned .refused) (hdone : s.done i = none)
      (hhold : s.turn.hold i = .none) : Phase s i [.call i, .refuse i]
  | abandoned {r : Interruption} (hcall : s.calls i = .returned (.abandoned r)) (hdone : s.done i = none)
      (hhold : s.turn.hold i = .none) : Phase s i [.call i, .abandon i r]

theorem hold_holding_of_ne {i j : Nat} (h : j ≠ i) : (Turn.holding j).hold i = .none :=
  if_neg h

theorem hold_running_of_ne {i j : Nat} (h : j ≠ i) : (Turn.running j).hold i = .none :=
  if_neg h

/-- Nothing has happened to a call but, at most, that its caller noted the time. -/
structure Undisturbed (s s' : Serving) (i : Nat) : Prop where
  calls : s'.calls i = s.calls i ∨ (s.calls i = .sent ∧ s'.calls i = .waiting)
  done : s'.done i = s.done i
  hold : s'.turn.hold i = s.turn.hold i

theorem undisturbed_of_update {i j : Nat} (hij : i ≠ j) (stage : Stage) :
    Undisturbed s { s with calls := Function.update s.calls j stage } i :=
  ⟨Or.inl (Function.update_of_ne hij _ _), rfl, rfl⟩

theorem undisturbed_of_turn {i : Nat} {turn : Turn} (hhold : turn.hold i = s.turn.hold i) :
    Undisturbed s { s with turn := turn } i :=
  ⟨Or.inl rfl, rfl, hhold⟩

/-- What is no part of the course of a call does not disturb it. -/
theorem undisturbed_next {e : Happening} (he : s.Enabled e) {i : Nat} (hne : e.call? ≠ some i) :
    Undisturbed s (s.next asks e) i := by
  have hother : ∀ {j : Nat}, e.call? = some j → i ≠ j := fun hj hij => hne (hij ▸ hj)
  cases e with
  | call j => exact undisturbed_of_update (hother rfl) _
  | refuse j => exact undisturbed_of_update (hother rfl) _
  | abandon j r => exact undisturbed_of_update (hother rfl) _
  | back j answer => exact undisturbed_of_update (hother rfl) _
  | send j =>
    -- the loop was free, and now it holds another call
    have hfree : s.turn.hold i = .none := by
      rw [he.2]
      rfl
    have hholds := hold_holding_of_ne (hother rfl).symm
    exact ⟨Or.inl (Function.update_of_ne (hother rfl) _ _), rfl, hholds.trans hfree.symm⟩
  | begin j =>
    apply undisturbed_of_turn
    rw [he, hold_holding_of_ne (hother rfl).symm]
    exact hold_running_of_ne (hother rfl).symm
  | finish j =>
    have hbusy : s.turn.hold i = .none := by
      rw [he]
      exact hold_running_of_ne (hother rfl).symm
    exact ⟨Or.inl rfl, Function.update_of_ne (hother rfl) _ _, hbusy.symm⟩
  | touch j =>
    -- the one happening that moves a caller and is no part of its course
    by_cases hij : i = j
    · subst hij
      exact ⟨Or.inr ⟨he, Function.update_self _ _ _⟩, rfl, rfl⟩
    · exact ⟨Or.inl (Function.update_of_ne hij _ _), rfl, rfl⟩
  | leave =>
    apply undisturbed_of_turn
    rw [he.1]
    rfl
  | unbind =>
    refine ⟨Or.inl rfl, rfl, ?_⟩
    rw [he]
    rfl
  | stop =>
    apply undisturbed_of_turn
    rw [he]
    rfl
  | interrupt j r => exact ⟨Or.inl rfl, rfl, rfl⟩
  | close c => exact ⟨Or.inl rfl, rfl, rfl⟩
  | closed c => exact ⟨Or.inl rfl, rfl, rfl⟩

theorem Undisturbed.calls_eq {i : Nat} (h : Undisturbed s s' i) {stage : Stage}
    (hcall : s.calls i = stage) (hne : stage ≠ .sent) : s'.calls i = stage := by
  rcases h.calls with hsame | ⟨hsent, _⟩
  · exact hsame.trans hcall
  · exact absurd (hcall.symm.trans hsent) hne

theorem Undisturbed.taken {i : Nat} (h : Undisturbed s s' i)
    (hcall : s.calls i = .sent ∨ s.calls i = .waiting) :
    s'.calls i = .sent ∨ s'.calls i = .waiting := by
  rcases h.calls with hsame | ⟨_, hwaiting⟩
  · rw [hsame]
    exact hcall
  · exact Or.inr hwaiting

theorem Phase.of_undisturbed {i : Nat} {w : List Happening} (h : Phase s i w)
    (hsame : Undisturbed s s' i) : Phase s' i w := by
  have hdone' := hsame.done
  have hhold' := hsame.hold
  cases h with
  | idle hcall hdone hhold =>
    exact .idle (hsame.calls_eq hcall Stage.noConfusion) (hdone'.trans hdone) (hhold'.trans hhold)
  | offering hcall hdone hhold =>
    exact .offering (hsame.calls_eq hcall Stage.noConfusion) (hdone'.trans hdone) (hhold'.trans hhold)
  | held hcall hdone hhold =>
    exact .held (hsame.taken hcall) (hdone'.trans hdone) (hhold'.trans hhold)
  | running hcall hdone hhold =>
    exact .running (hsame.taken hcall) (hdone'.trans hdone) (hhold'.trans hhold)
  | served hcall hdone hhold =>
    exact .served (hsame.taken hcall) (hdone'.trans hdone) (hhold'.trans hhold)
  | ran hcall hdone hhold =>
    exact .ran (hsame.calls_eq hcall Stage.noConfusion) (hdone'.trans hdone) (hhold'.trans hhold)
  | refused hcall hdone hhold =>
    exact .refused (hsame.calls_eq hcall Stage.noConfusion) (hdone'.trans hdone) (hhold'.trans hhold)
  | abandoned hcall hdone hhold =>
    exact .abandoned (hsame.calls_eq hcall Stage.noConfusion) (hdone'.trans hdone) (hhold'.trans hhold)

/-- What is part of the course of a call takes it from one phase to the next. -/
theorem Phase.next {i : Nat} {w : List Happening} (h : Phase s i w) {e : Happening} (he : s.Enabled e)
    (hi : e.call? = some i) : Phase (s.next asks e) i (w ++ [e]) := by
  -- what may happen is told by the phase, so there is one phase for each
  cases e with
  | call j =>
    cases hi
    cases h with
    | idle hcall hdone hhold => exact .offering (Function.update_self _ _ _) hdone hhold
    | _ => simp_all [Enabled]
  | send j =>
    cases hi
    rcases he with ⟨hoffering, hchoosing⟩
    cases h with
    | offering hcall hdone hhold =>
      exact .held (Or.inl (Function.update_self _ _ _)) hdone (if_pos rfl)
    | _ => simp_all
  | refuse j =>
    cases hi
    rcases he with ⟨hoffering, hquit⟩
    cases h with
    | offering hcall hdone hhold => exact .refused (Function.update_self _ _ _) hdone hhold
    | _ => simp_all
  | abandon j r =>
    cases hi
    rcases he with ⟨hoffering, hquit⟩
    cases h with
    | offering hcall hdone hhold => exact .abandoned (Function.update_self _ _ _) hdone hhold
    | _ => simp_all
  | begin j =>
    cases hi
    have hturn : s.turn.hold i = .held := by
      rw [he]
      exact if_pos rfl
    cases h with
    | held hcall hdone hhold => exact .running hcall hdone (if_pos rfl)
    | _ => simp_all
  | finish j =>
    cases hi
    have hturn : s.turn.hold i = .running := by
      rw [he]
      exact if_pos rfl
    cases h with
    | running hcall hdone hhold => exact .served hcall (Function.update_self _ _ _) rfl
    | _ => simp_all
  | back j answer =>
    cases hi
    rcases he with ⟨hwaiting, hanswer⟩
    cases h with
    | served hcall hdone hhold =>
      exact .ran (Function.update_self _ _ _) hanswer hhold
    | _ => simp_all
  | interrupt _ _ => cases hi
  | touch _ => cases hi
  | close _ => cases hi
  | leave => cases hi
  | unbind => cases hi
  | stop => cases hi
  | closed _ => cases hi

theorem course_snoc (i : Nat) (τ : List Happening) (e : Happening) :
    course i (τ ++ [e]) = course i τ ++ if e.call? = some i then [e] else [] := by
  simp only [course, List.filter_append, List.filter_cons, List.filter_nil, decide_eq_true_eq]

theorem mem_course {i : Nat} {e : Happening} (he : e.call? = some i) : e ∈ course i τ ↔ e ∈ τ := by
  simp only [course, List.mem_filter, he, decide_true, and_true]

/-- Every call is in the phase that its course so far leads to. -/
theorem Runs.phase {id : Text} {unit : OffsetUnit} {start : Int} (h : Runs asks (opening id unit start) τ s)
    (i : Nat) : Phase s i (course i τ) := by
  -- whatever happens is part of the course of this call, or does not disturb it
  induction h with
  | nil => exact .idle rfl rfl rfl
  | @snoc τ m _ e he ih =>
    rw [course_snoc]
    by_cases hi : e.call? = some i
    · rw [if_pos hi]
      exact ih.next he hi
    · rw [if_neg hi, List.append_nil]
      exact ih.of_undisturbed (undisturbed_next he hi)

theorem Phase.eq_of_ran {i : Nat} {w : List Happening} (h : Phase s i w)
    {answer : Except SessionError Answer} (hcall : s.calls i = .returned (.ran answer)) :
    w = [.call i, .send i, .begin i, .finish i, .back i answer] ∧ s.done i = some answer := by
  cases h with
  | ran hran hdone hhold =>
    cases hran.symm.trans hcall
    exact ⟨rfl, hdone⟩
  | _ => simp_all

/-- A call that ended without an answer had no command run. -/
theorem Phase.begin_notMem {i : Nat} {w : List Happening} (h : Phase s i w)
    (hcall : s.calls i = .returned .refused ∨ ∃ r, s.calls i = .returned (.abandoned r)) :
    .begin i ∉ w := by
  intro hbegin
  have hended : s.calls i ≠ .sent ∧ s.calls i ≠ .waiting ∧
      ∀ answer, s.calls i ≠ .returned (.ran answer) := by
    rcases hcall with hcall | ⟨r, hcall⟩ <;> simp [hcall]
  cases h with
  | running hcall hdone hhold => exact hcall.elim hended.1 hended.2.1
  | served hcall hdone hhold => exact hcall.elim hended.1 hended.2.1
  | ran hcall hdone hhold => exact hended.2.2 _ hcall
  | _ => simp at hbegin

/-- A command is finished just when its answer is there. -/
theorem Phase.finish_mem_iff {i : Nat} {w : List Happening} (h : Phase s i w) :
    .finish i ∈ w ↔ ∃ answer, s.done i = some answer := by
  cases h <;> simp_all

/-- While the loop runs a command there is no answer yet. -/
theorem Phase.done_of_running {i : Nat} {w : List Happening} (h : Phase s i w) (hturn : s.turn = .running i) :
    s.done i = none := by
  have hrunning : s.turn.hold i = .running := by
    rw [hturn]
    exact if_pos rfl
  cases h <;> simp_all

theorem Phase.eq_nil_of_idle {i : Nat} {w : List Happening} (h : Phase s i w) (hcall : s.calls i = .idle) :
    w = [] := by
  cases h <;> simp_all

/-- A call comes back with an answer only when its command is finished. -/
theorem Phase.finish_mem_of_back {i : Nat} {w : List Happening} (h : Phase s i w)
    {answer : Except SessionError Answer} (hback : .back i answer ∈ w) : .finish i ∈ w := by
  cases h <;> simp_all

/-! ## Calls that have ended stay that way -/

theorem returned_next {i : Nat} {ending : Ending} (hcall : s.calls i = .returned ending) {e : Happening}
    (he : s.Enabled e) : (s.next asks e).calls i = .returned ending := by
  -- whoever moves has not come back yet
  have hother : ∀ {j : Nat} {stage stage' : Stage}, s.calls j = stage → stage ≠ .returned ending →
      Function.update s.calls j stage' i = .returned ending := by
    intro j stage stage' hj hstage
    have hij : i ≠ j := fun hij => hstage (by rw [← hj, ← hij, hcall])
    rw [Function.update_of_ne hij, hcall]
  cases e with
  | call j => exact hother he Stage.noConfusion
  | send j => exact hother he.1 Stage.noConfusion
  | refuse j => exact hother he.1 Stage.noConfusion
  | abandon j r => exact hother he.1 Stage.noConfusion
  | touch j => exact hother he Stage.noConfusion
  | back j answer => exact hother he.1 Stage.noConfusion
  | interrupt j r => exact hcall
  | begin j => exact hcall
  | finish j => exact hcall
  | close c => exact hcall
  | leave => exact hcall
  | unbind => exact hcall
  | stop => exact hcall
  | closed c => exact hcall

theorem Runs.returned (h : Runs asks s τ s') {i : Nat} {ending : Ending}
    (hcall : s.calls i = .returned ending) : s'.calls i = .returned ending := by
  induction h with
  | nil => exact hcall
  | snoc _ he ih => exact returned_next ih he

/-! ## One command at a time -/

/-- The calls whose commands are finished, in the order in which they were. -/
def finished (τ : List Happening) : List Nat :=
  τ.filterMap Happening.finished?

/-- The command that the loop is running. -/
def underWay (s : Serving) : List Happening :=
  match s.turn with
  | .running i => [.begin i]
  | _ => []

theorem finished_snoc (τ : List Happening) (e : Happening) :
    finished (τ ++ [e]) = finished τ ++ e.finished?.toList := by
  unfold finished
  rw [List.filterMap_append]
  cases h : e.finished? <;> simp [h]

theorem underWay_next (asks : Nat → Call) {e : Happening} (he : s.Enabled e) (hwork : e.isWork = false) :
    (s.next asks e).underWay = s.underWay ∧ e.finished? = none := by
  cases e with
  | begin j => cases hwork
  | finish j => cases hwork
  | send j =>
    unfold underWay
    rw [he.2]
    exact ⟨rfl, rfl⟩
  | leave =>
    unfold underWay
    rw [he.1]
    exact ⟨rfl, rfl⟩
  | unbind =>
    unfold underWay
    rw [he]
    exact ⟨rfl, rfl⟩
  | stop =>
    unfold underWay
    rw [he]
    exact ⟨rfl, rfl⟩
  | _ => exact ⟨rfl, rfl⟩

/-- The loop begins and finishes commands in turn. -/
theorem Runs.work {id : Text} {unit : OffsetUnit} {start : Int} (h : Runs asks (opening id unit start) τ s) :
    τ.filter Happening.isWork = (finished τ).flatMap (fun i => [.begin i, .finish i]) ++ s.underWay := by
  induction h with
  | nil => rfl
  | @snoc τ m _ e he ih =>
    rw [List.filter_append, ih, finished_snoc, List.flatMap_append]
    cases hwork : e.isWork with
    | false =>
      rcases underWay_next asks he hwork with ⟨hsame, hnone⟩
      simp [hwork, hnone, hsame]
    | true =>
      cases e with
      | begin j =>
        have hidle : m.underWay = [] := by
          unfold underWay
          rw [show m.turn = .holding j from he]
        rw [hidle, List.append_nil]
        exact congrArg (· ++ [Happening.begin j]) (List.append_nil _).symm
      | finish j =>
        have hbegun : m.underWay = [.begin j] := by
          unfold underWay
          rw [show m.turn = .running j from he]
        rw [hbegun, List.append_assoc]
        exact (List.append_nil _).symm
      | _ => cases hwork

/-! ## After the loop has ended -/

theorem ended_next (asks : Nat → Call) (hturn : s.turn = .ended) {e : Happening} (he : s.Enabled e) :
    (s.next asks e).turn = .ended ∧ (s.next asks e).session.page = s.session.page ∧ e.isWork = false := by
  cases e <;> simp_all [Enabled, next, Happening.isWork, Session.touched]

theorem Runs.ended (h : Runs asks s τ s') (hturn : s.turn = .ended) :
    s'.turn = .ended ∧ s'.session.page = s.session.page ∧ ∀ e ∈ τ, e.isWork = false := by
  induction h with
  | nil => exact ⟨hturn, rfl, fun e he => absurd he List.not_mem_nil⟩
  | snoc _ he ih =>
    rcases ih with ⟨hend, hpage, hwork⟩
    rcases ended_next asks hend he with ⟨hend', hpage', hwork'⟩
    refine ⟨hend', hpage'.trans hpage, ?_⟩
    intro e' he'
    rcases List.mem_append.mp he' with hold | hnew
    · exact hwork e' hold
    · rw [List.mem_singleton.mp hnew]
      exact hwork'

/-- Whoever closed the session is told so only when the loop has ended. -/
theorem Runs.turn_of_closed {id : Text} {unit : OffsetUnit} {start : Int}
    (h : Runs asks (opening id unit start) τ s) {c : Nat} (hc : s.closers c = .returned) :
    s.turn = .ended := by
  induction h with
  | nil => cases hc
  | @snoc τ m _ e he ih =>
    -- the ones who were told before see the loop stay where it is
    have hold : m.closers c = .returned → (m.next asks e).turn = .ended :=
      fun hm => (ended_next asks (ih hm) he).1
    cases e with
    | close c' =>
      by_cases hcc : c = c'
      · subst hcc
        cases hc.symm.trans (Function.update_self _ _ _)
      · exact hold ((Function.update_of_ne hcc _ _).symm.trans hc)
    | closed c' => exact he.2
    | _ => exact hold hc

end Serving

end SyntaxPlayground
