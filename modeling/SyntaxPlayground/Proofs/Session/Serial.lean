import Mathlib.Data.List.Nodup
import SyntaxPlayground.Proofs.Session.Loop

/-!
# Commands take effect one after the other

Whatever the interleaving, a served session is in the state that the finished commands lead to when they
are run one after the other on the session alone, in the order in which they were finished, and every
answer is the one that is given there (`Serial`). Only the time of the last command may differ, because
callers note it on their own. That order agrees with time: a call that came back before another one began
comes before it (`Runs.finished_of_before`). The main result, `calls_serialize`, puts this together with
what is known of every call and of the loop.
-/

namespace SyntaxPlayground

namespace Session

open Document SyntaxPlayground.Tree

/-! ## The time of the last command does not matter -/

theorem showParse_touched (s : Session) (source output : Text) (time : Int) :
    (s.touched time).showParse source output =
      ((s.showParse source output).1, (s.showParse source output).2.touched time) := by
  have hprepared : (s.touched time).prepared source output = (s.prepared source output).touched time := rfl
  rw [showParse_eq, showParse_eq, hprepared]
  have hdocument : ((s.prepared source output).touched time).page.document =
      (s.prepared source output).page.document := rfl
  rw [hdocument]
  cases (s.prepared source output).page.document.mount (renderTree (ofDump? output)) with
  | error e => rfl
  | ok d => cases ofDump? output <;> rfl

theorem sendEvent_touched (s : Session) (kind : Text) (x : Handle) (time : Int) :
    (s.touched time).sendEvent kind x =
      ((s.sendEvent kind x).1, (s.sendEvent kind x).2.touched time) := by
  cases hev : s.page.document.eventTo x kind with
  | error e =>
    have hev' : (s.touched time).page.document.eventTo x kind = .error e := hev
    rw [sendEvent_error hev, sendEvent_error hev']
  | ok ev =>
    have hev' : (s.touched time).page.document.eventTo x kind = .ok ev := hev
    rw [sendEvent_ok hev, sendEvent_ok hev']
    rfl

/-- A command neither reads nor writes the time of the last command. -/
theorem execute_touched (compiler : Compiler) (s : Session) (c : Command) (time : Int) :
    execute compiler (s.touched time) c =
      ((execute compiler s c).1, (execute compiler s c).2.touched time) := by
  unfold execute
  -- the samples themselves do not matter
  obtain ⟨catalog, hcatalog⟩ : ∃ catalog, Catalog.builtin = catalog := ⟨_, rfl⟩
  rw [hcatalog]
  cases c with
  | parse source =>
    dsimp only
    cases compiler .parse source with
    | error f => rfl
    | ok output => exact showParse_touched s source output time
  | tokenize source =>
    dsimp only
    cases compiler .tokenize source <;> rfl
  | interpret source =>
    dsimp only
    cases compiler .interpret source <;> rfl
  | loadSample name =>
    dsimp only
    cases catalog.get name <;> rfl
  | event kind target => exact sendEvent_touched s kind target time
  | snapshot => rfl

theorem close_touched (s : Session) (time : Int) : (s.touched time).close = s.close.touched time := by
  unfold close
  cases hclosed : s.closed <;> simp [touched, hclosed]

end Session

/-- An open session accepts every call. -/
theorem Call.refusal? (call : Call) {s : Session} (hopen : s.closed = false) :
    s.refusal? call.step.command = none := by
  unfold Session.refusal?
  obtain ⟨catalog, hcatalog⟩ : ∃ catalog, Catalog.builtin = catalog := ⟨_, rfl⟩
  rw [hcatalog]
  cases hcommand : call.step.command with
  | loadSample name =>
    rcases call.known name hcommand with ⟨sample, hsample⟩
    rw [hcatalog] at hsample
    simp [hsample, hopen]
  | _ => simp [hopen]

/-- Two sessions that differ at most in the time of the last command make the same of a call. -/
theorem Call.execute_eq (call : Call) {s r : Session} (hopen : r.closed = false) {time : Int}
    (hsame : s.touched time = r.touched time) :
    (s.execute call.step.compiler call.step.command).1 = r.answer call.step ∧
      (s.execute call.step.compiler call.step.command).2.touched time = (r.after call.step).touched time := by
  -- alone, a session notes the time and then runs the command; here the caller may note it later
  have hrun := Session.run_of_accept (call.refusal? hopen)
  rw [Session.execute_touched] at hrun
  have hexecute := Session.execute_touched call.step.compiler s call.step.command time
  rw [hsame, Session.execute_touched, Prod.mk.injEq] at hexecute
  unfold Session.answer Session.after
  rw [hrun]
  exact ⟨hexecute.1.symm, hexecute.2.symm⟩

/-- The loop has unbound the page. -/
def Turn.isOver : Turn → Bool
  | .unbound | .ended => true
  | .choosing | .holding _ | .running _ | .leaving => false

namespace Serving

variable {asks : Nat → Call} {id : Text} {unit : OffsetUnit} {start : Int} {s s' : Serving}
  {τ τ' : List Happening}

/-! ## The serial session -/

/-- A new session after the commands of some calls, one after the other. -/
def replay (asks : Nat → Call) (id : Text) (unit : OffsetUnit) (start : Int) (order : List Nat) : Session :=
  (Session.new id unit start).afterAll (order.map fun i => (asks i).step)

theorem replay_snoc (order : List Nat) (i : Nat) : replay asks id unit start (order ++ [i]) =
    (replay asks id unit start order).after (asks i).step := by
  unfold replay
  rw [List.map_append, Session.afterAll_append]
  rfl

theorem replay_closed (order : List Nat) : (replay asks id unit start order).closed = false :=
  Session.closed_afterAll _ _

/-- The session that the finished commands lead to, closed if the loop has closed it. -/
def serialSession (asks : Nat → Call) (id : Text) (unit : OffsetUnit) (start : Int) (order : List Nat)
    (turn : Turn) : Session :=
  if turn.isOver then (replay asks id unit start order).close else replay asks id unit start order

/-- The session and every answer are those of a serial run of the finished commands. -/
structure Serial (asks : Nat → Call) (id : Text) (unit : OffsetUnit) (start : Int) (τ : List Happening)
    (s : Serving) : Prop where
  session : s.session.touched start =
    (serialSession asks id unit start (finished τ) s.turn).touched start
  answers : ∀ i answer, s.done i = some answer → ∃ earlier later,
    finished τ = earlier ++ i :: later ∧ answer = (replay asks id unit start earlier).answer (asks i).step

/-- What finishes no command keeps the answers. -/
theorem Serial.of_unfinished (h : Serial asks id unit start τ s) {e : Happening} (he : e.finished? = none)
    (hdone : s'.done = s.done)
    (hsession : s'.session.touched start =
      (serialSession asks id unit start (finished τ) s'.turn).touched start) :
    Serial asks id unit start (τ ++ [e]) s' := by
  have hfinished : finished (τ ++ [e]) = finished τ := by
    rw [finished_snoc, he]
    exact List.append_nil _
  constructor
  · rw [hfinished]
    exact hsession
  · rw [hfinished, hdone]
    exact h.answers

/-- What leaves the session alone and does not bring the loop over keeps it serial. -/
theorem Serial.of_same (h : Serial asks id unit start τ s) {e : Happening} (he : e.finished? = none)
    (hdone : s'.done = s.done) (hsession : s'.session.touched start = s.session.touched start)
    (hover : s'.turn.isOver = s.turn.isOver) : Serial asks id unit start (τ ++ [e]) s' := by
  apply h.of_unfinished he hdone
  rw [hsession, h.session]
  unfold serialSession
  rw [hover]

theorem Serial.finish (h : Serial asks id unit start τ s) {j : Nat} (hturn : s.turn = .running j) :
    Serial asks id unit start (τ ++ [.finish j]) (s.next asks (.finish j)) := by
  have hsame : s.session.touched start = (replay asks id unit start (finished τ)).touched start := by
    have hsession := h.session
    rw [hturn] at hsession
    exact hsession
  rcases (asks j).execute_eq (replay_closed (finished τ)) hsame with ⟨hanswer, hafter⟩
  have hfinished : finished (τ ++ [.finish j]) = finished τ ++ [j] := finished_snoc τ (.finish j)
  constructor
  · rw [hfinished]
    unfold serialSession
    rw [replay_snoc]
    exact hafter
  · intro i answer hdone
    have hupdate : (s.next asks (.finish j)).done = Function.update s.done j
        (some (s.session.execute (asks j).step.compiler (asks j).step.command).1) := rfl
    rw [hupdate] at hdone
    rw [hfinished]
    by_cases hij : i = j
    · subst hij
      rw [Function.update_self, Option.some_inj] at hdone
      exact ⟨finished τ, [], rfl, hdone.symm.trans hanswer⟩
    · -- the answers that were there before keep their place
      rw [Function.update_of_ne hij] at hdone
      rcases h.answers i answer hdone with ⟨earlier, later, horder, hserial⟩
      refine ⟨earlier, later ++ [j], ?_, hserial⟩
      rw [horder, List.append_assoc, List.cons_append]

/-- Whatever happens, the session stays serial. -/
theorem Serial.next (h : Serial asks id unit start τ s) {e : Happening} (he : s.Enabled e) :
    Serial asks id unit start (τ ++ [e]) (s.next asks e) := by
  cases e with
  | finish j => exact h.finish he
  | unbind =>
    -- the serial session is closed from now on, so both sides are closed here
    have hsession := h.session
    rw [show s.turn = .leaving from he] at hsession
    have hclose := congrArg Session.close hsession
    rw [Session.close_touched, Session.close_touched] at hclose
    exact h.of_unfinished rfl rfl hclose
  | send j => exact h.of_same rfl rfl rfl (by rw [he.2]; rfl)
  | begin j => exact h.of_same rfl rfl rfl (by rw [he]; rfl)
  | leave => exact h.of_same rfl rfl rfl (by rw [he.1]; rfl)
  | stop => exact h.of_same rfl rfl rfl (by rw [he]; rfl)
  | _ => exact h.of_same rfl rfl rfl rfl

theorem Runs.serial (h : Runs asks (opening id unit start) τ s) : Serial asks id unit start τ s := by
  induction h with
  | nil =>
    refine ⟨rfl, ?_⟩
    intro i answer hdone
    cases hdone
  | snoc _ he ih => exact ih.next he

/-! ## The order of the finished commands -/

theorem mem_finished {i : Nat} : i ∈ finished τ ↔ .finish i ∈ τ := by
  unfold finished
  rw [List.mem_filterMap]
  constructor
  · rintro ⟨e, he, hi⟩
    cases e with
    | finish j =>
      cases hi
      exact he
    | _ => cases hi
  · intro hfinish
    exact ⟨_, hfinish, rfl⟩

/-- No command is finished twice. -/
theorem Runs.nodup_finished (h : Runs asks (opening id unit start) τ s) : (finished τ).Nodup := by
  induction h with
  | nil => exact List.nodup_nil
  | @snoc τ m h e he ih =>
    rw [finished_snoc]
    cases e with
    | finish j =>
      have hfresh : j ∉ finished τ := by
        intro hj
        have hfinish := (mem_course rfl).mpr (mem_finished.mp hj)
        rcases (h.phase j).finish_mem_iff.mp hfinish with ⟨answer, hdone⟩
        rw [(h.phase j).done_of_running he] at hdone
        cases hdone
      have hnodup := List.Nodup.concat hfresh ih
      rw [List.concat_eq_append] at hnodup
      exact hnodup
    | _ =>
      have hsame : (finished τ ++ []).Nodup := by
        rw [List.append_nil]
        exact ih
      exact hsame

/-- Commands are finished in an order that agrees with time: if one call came back before another one
began, its command comes first. -/
theorem Runs.finished_of_before (h : Runs asks (opening id unit start) τ s) {i j : Nat}
    {answer : Except SessionError Answer} (hbefore : [.back i answer, .call j].Sublist τ)
    (hj : j ∈ finished τ) : [i, j].Sublist (finished τ) := by
  -- cut the run right before the second call
  have hcut : ∃ τ₁ τ₂, τ = τ₁ ++ .call j :: τ₂ ∧ .back i answer ∈ τ₁ := by
    rcases List.cons_sublist_iff.mp hbefore with ⟨α, β, rfl, hback, hcall⟩
    rcases List.append_of_mem (List.singleton_sublist.mp hcall) with ⟨γ, δ, rfl⟩
    exact ⟨α ++ γ, δ, (List.append_assoc _ _ _).symm, List.mem_append_left γ hback⟩
  rcases hcut with ⟨τ₁, τ₂, rfl, hback⟩
  rcases h.exists_of_append with ⟨m, hfirst, hsecond⟩
  have hidle : m.calls j = .idle := hsecond.enabled_of_cons rfl
  have hi : i ∈ finished τ₁ := by
    have hfinish := (hfirst.phase i).finish_mem_of_back ((mem_course rfl).mpr hback)
    exact mem_finished.mpr ((mem_course rfl).mp hfinish)
  have hsplit : finished (τ₁ ++ .call j :: τ₂) = finished τ₁ ++ finished (.call j :: τ₂) :=
    List.filterMap_append
  rw [hsplit] at hj ⊢
  have hlate : j ∈ finished (.call j :: τ₂) := by
    rcases List.mem_append.mp hj with hearly | hlate
    · -- before its call nothing has happened to it
      have hfinish := (mem_course rfl).mpr (mem_finished.mp hearly)
      rw [(hfirst.phase j).eq_nil_of_idle hidle] at hfinish
      exact absurd hfinish List.not_mem_nil
    · exact hlate
  exact (List.singleton_sublist.mpr hi).append (List.singleton_sublist.mpr hlate)

/-! ## All together -/

/-- Once the loop is over the page is unbound, and nothing is left on it. -/
theorem Serial.unbound (h : Serial asks id unit start τ s) (hover : s.turn.isOver = true) :
    s.session.page.bound = [] ∧ s.session.page.document.registry.listeners = [] := by
  have hopen : (replay asks id unit start (finished τ)).closed = false := replay_closed _
  have hsteady : (replay asks id unit start (finished τ)).Steady :=
    (Session.blank_new id unit start).steady.afterAll _
  have hpage : s.session.page = (replay asks id unit start (finished τ)).page.unbind := by
    have hsession := congrArg Session.page h.session
    unfold serialSession Session.close at hsession
    rw [if_pos hover, hopen, if_neg Bool.false_ne_true] at hsession
    exact hsession
  rw [hpage]
  exact ⟨rfl, hsteady.1.unbind.2⟩

/-- In every interleaving of callers, closers and the loop of a new session: commands never overlap; a call
that came back with an answer had its command run once, after the call and before it came back; the command
of a call that was refused or given up never runs; and once somebody who closed the session was told so,
the page is unbound and no command runs any more. So the session is the one that the finished commands lead
to, one after the other, in an order in which a call that came back before another one began comes first. -/
theorem calls_serialize (asks : Nat → Call) (h : Runs asks (opening id unit start) τ s) :
    τ.filter Happening.isWork = (finished τ).flatMap (fun i => [.begin i, .finish i]) ++ s.underWay ∧
    (∀ i answer, s.calls i = .returned (.ran answer) →
      course i τ = [.call i, .send i, .begin i, .finish i, .back i answer] ∧
      s.done i = some answer) ∧
    (∀ i, (s.calls i = .returned .refused ∨ ∃ r, s.calls i = .returned (.abandoned r)) →
      ∀ τ' s', Runs asks s τ' s' → .begin i ∉ τ ++ τ') ∧
    (∀ c, s.closers c = .returned →
      s.session.page.bound = [] ∧ s.session.page.document.registry.listeners = [] ∧ s.underWay = [] ∧
      ∀ τ' s', Runs asks s τ' s' →
        s'.session.page = s.session.page ∧ ∀ e ∈ τ', e.isWork = false) ∧
    (finished τ).Nodup ∧ Serial asks id unit start τ s ∧
    ∀ i j answer, [.back i answer, .call j].Sublist τ → j ∈ finished τ → [i, j].Sublist (finished τ) := by
  refine ⟨h.work, ?_, ?_, ?_, h.nodup_finished, h.serial, ?_⟩
  · intro i answer hcall
    exact (h.phase i).eq_of_ran hcall
  · intro i hcall τ' s' h' hbegin
    have hcall' : s'.calls i = .returned .refused ∨ ∃ r, s'.calls i = .returned (.abandoned r) := by
      rcases hcall with hcall | ⟨r, hcall⟩
      · exact Or.inl (h'.returned hcall)
      · exact Or.inr ⟨r, h'.returned hcall⟩
    exact ((h.trans h').phase i).begin_notMem hcall' ((mem_course rfl).mpr hbegin)
  · intro c hc
    have hturn := h.turn_of_closed hc
    have hunbound := h.serial.unbound (by rw [hturn]; rfl)
    refine ⟨hunbound.1, hunbound.2, ?_, ?_⟩
    · unfold underWay
      rw [hturn]
    · intro τ' s' h'
      exact (h'.ended hturn).2
  · intro i j answer hbefore hj
    exact h.finished_of_before hbefore hj

/-- Two calls on a session: one parses a small program, the other asks for a snapshot. -/
def twoCalls : Nat → Call
  | 0 => ⟨Session.parseProgram, fun _ hcommand => Command.noConfusion hcommand⟩
  | _ => ⟨⟨.fixed [] [] [], 2, .snapshot⟩, fun _ hcommand => Command.noConfusion hcommand⟩

/-- What the first of the two calls is answered. -/
def firstAnswer : Except SessionError Answer :=
  (Session.execute Session.parseProgram.compiler (.new [] .rune 0) Session.parseProgram.command).1

/-- The session is closed while both calls wait. The loop takes the first one all the same, and the second
one is refused. -/
def lateTaking : List Happening :=
  [.call 0, .call 1, .close 0, .send 0, .begin 0, .finish 0, .touch 0, .back 0 firstAnswer, .leave, .unbind,
    .refuse 1, .stop, .closed 0]

theorem runs_lateTaking : Runs twoCalls (opening [] .rune 0) lateTaking
    (lateTaking.foldl (next twoCalls) (opening [] .rune 0)) := by
  have hstart : Runs twoCalls (opening [] .rune 0) [] (opening [] .rune 0) := .nil
  have hcalled := ((hstart.snoc (e := .call 0) rfl).snoc (e := .call 1) rfl).snoc (e := .close 0) rfl
  have hran := ((((hcalled.snoc (e := .send 0) ⟨rfl, rfl⟩).snoc (e := .begin 0) rfl).snoc
    (e := .finish 0) rfl).snoc (e := .touch 0) rfl).snoc (e := .back 0 firstAnswer) ⟨rfl, rfl⟩
  exact ((((hran.snoc (e := .leave) ⟨rfl, rfl⟩).snoc (e := .unbind) rfl).snoc (e := .refuse 1)
    ⟨rfl, rfl⟩).snoc (e := .stop) rfl).snoc (e := .closed 0) ⟨rfl, rfl⟩

/-- The first call came back although the session was already being closed; its command ran once, the
second call's never does, and in the end the page is unbound. -/
theorem calls_serialize_lateTaking : ∃ s, Runs twoCalls (opening [] .rune 0) lateTaking s ∧
    course 0 lateTaking = [.call 0, .send 0, .begin 0, .finish 0, .back 0 firstAnswer] ∧
    (∀ τ' s', Runs twoCalls s τ' s' → .begin 1 ∉ lateTaking ++ τ') ∧
    s.session.page.bound = [] ∧ finished lateTaking = [0] ∧
    firstAnswer = (Session.new [] .rune 0).answer Session.parseProgram := by
  rcases calls_serialize twoCalls runs_lateTaking with ⟨_, hran, hrefused, hclosed, _, hserial, _⟩
  have hfirst := hran 0 firstAnswer rfl
  rcases hserial.answers 0 firstAnswer hfirst.2 with ⟨earlier, later, horder, hanswer⟩
  have hearlier : earlier = [] := by
    -- one command is finished, so none is finished before it
    have hlength := congrArg List.length horder
    have hone : (finished lateTaking).length = 1 := rfl
    rw [hone, List.length_append, List.length_cons] at hlength
    exact List.length_eq_zero_iff.mp (by omega)
  subst hearlier
  exact ⟨_, runs_lateTaking, hfirst.1, hrefused 1 (Or.inl rfl), (hclosed 0 rfl).1, rfl, hanswer⟩

end Serving

end SyntaxPlayground
