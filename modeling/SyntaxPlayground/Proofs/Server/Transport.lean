import Mathlib.Data.List.Forall2
import SyntaxPlayground.Proofs.Server.Delivery
import SyntaxPlayground.Proofs.Session.Failure
import SyntaxPlayground.Proofs.Store.Sharing

/-!
# Requests and messages drive a session alike

A command may be sent as a request or as a message on a socket. `transports_agree` is about runs in which
each command is sent in either way: the session goes through the same states as if it had been given the
commands itself, and what comes back for each of them, one response or one reply, tells what the session
answered. Which way was taken shows in nothing but the form of the answer.
-/

namespace SyntaxPlayground

/-! ## Errors have a text -/

namespace Session

variable {s : Session} {x : Step}

theorem showReply_ne_compiler (op : Operation) (source output : Text) (f : Failure) :
    (s.showReply op source output).1 ≠ .error (.compiler f) := by
  intro h
  cases op with
  | parse =>
    simp only [showReply, showParse_eq] at h
    -- a dump may only fail to be mounted
    split at h <;> cases h
  | tokenize => cases h
  | interpret => cases h

theorem execute_compiler_error {compiler : Compiler} {c : Command} {f : Failure}
    (h : (execute compiler s c).1 = .error (.compiler f)) : ∃ op source, compiler op source = .error f := by
  rcases c.forms with ⟨op, source, rfl⟩ | ⟨name, rfl⟩ | ⟨kind, target, rfl⟩ | rfl
  · rw [execute_asking] at h
    cases hcompiler : compiler op source with
    | error f' =>
      rw [hcompiler] at h
      cases h
      exact ⟨op, source, hcompiler⟩
    | ok output =>
      rw [hcompiler] at h
      exact absurd h (showReply_ne_compiler op source output f)
  · obtain ⟨found, hexecute⟩ := execute_loadSample compiler name
    rw [hexecute] at h
    cases found <;> cases h
  · unfold execute sendEvent at h
    dsimp only at h
    split at h <;> cases h
  · cases h

/-- Whenever a session says that the compiler failed, it did. -/
theorem compiler_error_of_answer {f : Failure} (h : s.answer x = .error (.compiler f)) :
    ∃ op source, x.compiler op source = .error f := by
  cases hrefusal : s.refusal? x.command with
  | some e =>
    have hanswer : s.answer x = .error e := congrArg Prod.fst (run_of_refusal hrefusal)
    cases hanswer.symm.trans h
    rcases refusal?_cases hrefusal with hclosed | ⟨u, hsample⟩
    · cases hclosed
    · cases hsample
  | none =>
    have hanswer := (congrArg Prod.fst (run_of_accept hrefusal)).symm.trans h
    exact execute_compiler_error hanswer

end Session

theorem utf8_append_ne_nil {text : String} (h : utf8 text ≠ []) (rest : Text) : utf8 text ++ rest ≠ [] := by
  simp [h]

/-- The text of an error is never empty, unless it is the compiler's. -/
theorem SessionError.message_ne_nil {e : SessionError} (h : ∀ f, e = .compiler f → f.message ≠ []) :
    e.message ≠ [] := by
  cases e with
  | closed => decide
  | interrupted i => cases i <;> decide
  | unknownSample u => exact utf8_append_ne_nil (by decide) _
  | compiler f => exact h f rfl
  | mount d => exact utf8_append_ne_nil (by decide) _
  | event d => cases d <;> exact utf8_append_ne_nil (by decide) _

/-! ## A session in its store -/

namespace Store

variable {s : Store} {id : Text} {session : Session}

theorem get_eq_ok_iff_find? : s.get id = .ok session ↔ s.registered.find? (·.id == id) = some session := by
  unfold get
  cases s.registered.find? (·.id == id) with
  | none => simp
  | some x => simp

theorem id_of_get (h : s.get id = .ok session) : session.id = id := by
  simpa using List.find?_some (get_eq_ok_iff_find?.mp h)

/-- What a command on a registered session answers, and what it does to the store. -/
theorem command_of_get (h : s.get id = .ok session) (x : Session.Step) :
    s.command x.compiler x.now id x.command =
      (session.answer x, s.update id fun _ => session.after x) := by
  have hheld : s.held? id = some session := by
    rw [held?, List.find?_append, get_eq_ok_iff_find?.mp h]
    rfl
  simp only [command, hheld]
  rfl

/-- The store after a command. -/
def after (s : Store) (id : Text) (x : Session.Step) : Store :=
  (s.command x.compiler x.now id x.command).2

/-- The store after some commands on one session. -/
def afterAll (s : Store) (id : Text) (xs : List Session.Step) : Store :=
  xs.foldl (fun s x => s.after id x) s

/-- A command leaves the session registered, in its new state. -/
theorem get_after (h : s.get id = .ok session) (x : Session.Step) :
    (s.after id x).get id = .ok (session.after x) := by
  have hid : (session.after x).id = id :=
    (congrArg Prod.fst (session.settings_after x)).trans (id_of_get h)
  have hsame : ((·.id == id) ∘ changeAt id fun _ => session.after x) = (·.id == id) := by
    funext y
    simp only [Function.comp_apply, changeAt]
    split
    · next hy => rw [hid, hy]
    · rfl
  rw [after, command_of_get h, get_eq_ok_iff_find?, update_registered, List.find?_map, hsame,
    get_eq_ok_iff_find?.mp h]
  simp [changeAt, id_of_get h]

theorem get_afterAll (h : s.get id = .ok session) (xs : List Session.Step) :
    (s.afterAll id xs).get id = .ok (session.afterAll xs) := by
  induction xs generalizing s session with
  | nil => exact h
  | cons x xs ih => exact ih (get_after h x)

end Store

/-! ## Sending commands -/

/-- A way to send a command to a session: as a request, or as a message on one of its sockets. -/
inductive Sending where
  | request (r : HttpRequest)
  | message (data : Text)

/-- What comes back: one response, or one outcome on the socket. -/
inductive Receipt where
  | response (o : Outcome)
  | reply (o : Server.SocketOutcome)

/-- A command on its way, and what the server meets when it arrives. -/
structure Post where
  around : Surroundings
  command : Command
  sending : Sending

/-- The step that a session takes for a command on its way. How the command is sent does not matter. -/
def Post.step (p : Post) : Session.Step where
  compiler := p.around.compiler
  now := p.around.now
  command := p.command

/-- The commands that a session is given in some steps, each with what the session answers. -/
def Session.exchanges (s : Session) : List Session.Step → List (Command × Except SessionError Answer)
  | [] => []
  | x :: xs => (x.command, s.answer x) :: (s.after x).exchanges xs

/-- What comes back tells the answer to a command. A response has the status 200 exactly if there is an
answer, and then it is the answer. A reply repeats the action, says whether there is an answer, and has
exactly one more field: a snapshot, the result of an event, or the text of the error. -/
inductive Tells : Receipt → Command × Except SessionError Answer → Prop where
  | response (c : Command) (a : Answer) :
      Tells (.response (.response (Wire.json 200 (Wire.answer a)))) (c, .ok a)
  | errorResponse (c : Command) (e : SessionError) (status : Nat) (h : status ≠ 200) :
      Tells (.response (.response (Wire.json status (.object [(utf8 "error", .string e.message)]))))
        (c, .error e)
  | snapshotReply (c : Command) (a : Snapshot) :
      Tells (.reply (.message (Wire.body (.object [(utf8 "action", .string c.action),
        (utf8 "success", .bool true), (utf8 "snapshot", Wire.snapshot a)])))) (c, .ok (.snapshot a))
  | eventReply (c : Command) (a : EventResult) :
      Tells (.reply (.message (Wire.body (.object [(utf8 "action", .string c.action),
        (utf8 "success", .bool true), (utf8 "event", Wire.eventResult a)])))) (c, .ok (.event a))
  | errorReply (c : Command) (e : SessionError) :
      Tells (.reply (.message (Wire.body (.object [(utf8 "action", .string c.action),
        (utf8 "success", .bool false), (utf8 "error", .string e.message)])))) (c, .error e)

namespace Server

variable {s : Server} {id : Text} {session : Session} {p : Post}

/-- The server gets what is sent to the session `id`. -/
def send (s : Server) (around : Surroundings) (id : Text) : Sending → Receipt × Server
  | .request r => (.response (s.handle around r).1, (s.handle around r).2)
  | .message data => (.reply (s.receive around id data).1, (s.receive around id data).2)

/-- The server gets some commands for the session `id`, one after the other. -/
def sendAll (s : Server) (id : Text) : List Post → List Receipt × Server
  | [] => ([], s)
  | p :: posts =>
    ((s.send p.around id p.sending).1 :: ((s.send p.around id p.sending).2.sendAll id posts).1,
      ((s.send p.around id p.sending).2.sendAll id posts).2)

/-- What is sent asks for the command, and is not too long for the way it takes. The request for a snapshot
may have any body. -/
def Conveys (s : Server) (id : Text) (c : Command) : Sending → Prop
  | .request r => s.Routes r id c.route ∧ (c ≠ .snapshot →
      r.body.StandsFor c.fields ∧ r.body.length ≤ bodyLimit s.configuration.maxSourceBytes)
  | .message data => data.StandsFor c.messageFields ∧ s.isTooLong data = false

/-- A command within the limits, with no empty source, that is sent while the compiler has a text for each of
its errors. -/
structure Admits (s : Server) (id : Text) (p : Post) : Prop where
  within : p.command.IsWithin s.configuration.maxSourceBytes
  source : p.command.source? ≠ some []
  compiler : ∀ op source f, p.around.compiler op source = .error f → f.message ≠ []
  conveys : s.Conveys id p.command p.sending

/-- The server with the session one step further. -/
def afterStep (s : Server) (id : Text) (x : Session.Step) : Server :=
  { s with store := s.store.after id x }

theorem Admits.afterStep (h : s.Admits id p) (id' : Text) (x : Session.Step) :
    (s.afterStep id' x).Admits id p := by
  obtain ⟨around, c, sending⟩ := p
  refine ⟨h.within, h.source, h.compiler, ?_⟩
  -- only the configuration matters
  cases sending with
  | request r => exact h.conveys
  | message data => exact h.conveys

theorem command_step (hget : s.store.get id = .ok session) (p : Post) :
    s.store.command p.around.compiler p.around.now id p.command =
      (session.answer p.step, (s.afterStep id p.step).store) := by
  have hcommand := Store.command_of_get hget p.step
  have hafter : s.store.update id (fun _ => session.after p.step) = (s.afterStep id p.step).store :=
    (congrArg Prod.snd hcommand).symm
  rw [hafter] at hcommand
  exact hcommand

theorem answerCommand_of_get (hget : s.store.get id = .ok session) (p : Post) :
    s.answerCommand p.around id p.command 200 =
      (match session.answer p.step with
        | .ok a => Wire.json 200 (Wire.answer a)
        | .error e => Wire.error e.status e.message, s.afterStep id p.step) := by
  simp only [answerCommand, command_step hget]
  rfl

theorem socketCommand_of_get (hget : s.store.get id = .ok session) (p : Post) :
    s.socketCommand p.around id p.command.action p.command =
      (⟨p.command.action, (session.answer p.step).mapError SessionError.message⟩,
        s.afterStep id p.step) := by
  simp only [socketCommand, command_step hget]
  rfl

/-! ## One command -/

theorem handle_of_admits (hget : s.store.get id = .ok session) (h : s.Admits id p) {r : HttpRequest}
    (hsending : p.sending = .request r) :
    s.handle p.around r =
      (.response (s.answerCommand p.around id p.command 200).1,
        (s.answerCommand p.around id p.command 200).2) := by
  have hconveys := h.conveys
  rw [hsending] at hconveys
  obtain ⟨hroutes, hbody⟩ := hconveys
  by_cases hc : p.command = .snapshot
  · -- the body of a request for a snapshot is not read
    rw [handle_route hget hroutes, hc]
    rfl
  · obtain ⟨hstands, hfits⟩ := hbody hc
    exact handle_of_isWithin hget hroutes hstands hfits h.within h.source p.around

theorem tells_response (c : Command) (result : Except SessionError Answer) :
    Tells (.response (.response (match result with
      | .ok a => Wire.json 200 (Wire.answer a)
      | .error e => Wire.error e.status e.message))) (c, result) := by
  cases result with
  | ok a => exact .response c a
  | error e => exact .errorResponse c e e.status e.status_ne.1

/-- The reply to a command tells its answer, as long as an error has a text. -/
theorem tells_reply (c : Command) {result : Except SessionError Answer}
    (h : ∀ e, result = .error e → e.message ≠ []) :
    Tells (.reply (.message (SocketReply.write ⟨c.action, result.mapError SessionError.message⟩)))
      (c, result) := by
  cases result with
  | ok a =>
    cases a with
    | snapshot a => exact .snapshotReply c a
    | event a => exact .eventReply c a
  | error e =>
    have hwrite : SocketReply.write ⟨c.action, .error e.message⟩ =
        Wire.body (.object [(utf8 "action", .string c.action), (utf8 "success", .bool false),
          (utf8 "error", .string e.message)]) := by
      simp only [SocketReply.write, h e rfl, if_false]
      rfl
    have hreply := Tells.errorReply c e
    rw [← hwrite] at hreply
    exact hreply

/-- However a command is sent, the session takes its step, and what comes back tells the answer. -/
theorem send_of_admits (hget : s.store.get id = .ok session) (h : s.Admits id p) :
    (s.send p.around id p.sending).2 = s.afterStep id p.step ∧
      Tells (s.send p.around id p.sending).1 (p.command, session.answer p.step) := by
  cases hsending : p.sending with
  | request r =>
    rw [send, handle_of_admits hget h hsending, answerCommand_of_get hget p]
    exact ⟨rfl, tells_response p.command _⟩
  | message data =>
    have hconveys := h.conveys
    rw [hsending] at hconveys
    have hreceive := receive_of_isWithin hconveys.2 hconveys.1 h.within p.around id
    rw [send, hreceive, socketCommand_of_get hget p]
    refine ⟨rfl, tells_reply p.command ?_⟩
    intro e he
    apply SessionError.message_ne_nil
    rintro f rfl
    obtain ⟨op, source, hcompiler⟩ := Session.compiler_error_of_answer he
    exact h.compiler op source f hcompiler

/-! ## A run -/

theorem sendAll_of_admits (hget : s.store.get id = .ok session) {posts : List Post}
    (h : ∀ p ∈ posts, s.Admits id p) :
    (s.sendAll id posts).2 = { s with store := s.store.afterAll id (posts.map Post.step) } ∧
      List.Forall₂ Tells (s.sendAll id posts).1 (session.exchanges (posts.map Post.step)) := by
  induction posts generalizing s session with
  | nil => exact ⟨rfl, .nil⟩
  | cons p posts ih =>
    obtain ⟨hstate, htells⟩ := send_of_admits hget (h p List.mem_cons_self)
    have hget' : (s.afterStep id p.step).store.get id = .ok (session.after p.step) :=
      Store.get_after hget p.step
    obtain ⟨hrest, hrests⟩ := ih hget' fun q hq => (h q (List.mem_cons_of_mem p hq)).afterStep id p.step
    rw [sendAll, hstate]
    exact ⟨hrest, .cons htells hrests⟩

/-- Commands that are sent one after the other, each as a request or as a message, lead the session through
the states that the commands themselves lead to, and change nothing else of the server. What comes back, once
for each command and in their order, tells what the session answers. -/
theorem transports_agree (s : Server) {id : Text} {session : Session}
    (hget : s.store.get id = .ok session) (posts : List Post) (h : ∀ p ∈ posts, s.Admits id p) :
    (s.sendAll id posts).2 = { s with store := s.store.afterAll id (posts.map Post.step) } ∧
      (s.sendAll id posts).2.store.get id = .ok (session.afterAll (posts.map Post.step)) ∧
      List.Forall₂ Tells (s.sendAll id posts).1 (session.exchanges (posts.map Post.step)) := by
  obtain ⟨hstate, htells⟩ := sendAll_of_admits hget h
  refine ⟨hstate, ?_, htells⟩
  rw [hstate]
  exact Store.get_afterAll hget _

/-- A source is parsed by a request, its tree is clicked by a message, a sample that does not exist is asked
for by a request, and a message asks for what there is then. -/
def mixedPosts : List Post :=
  [⟨calm, .parse (utf8 "a"), .request (asked (.parse (utf8 "a")) (utf8 "\x7b\"source\":\"a\"\x7d"))⟩,
    ⟨calm, .event (utf8 "click") (utf8 "n1"),
      .message (utf8 "\x7b\"action\":\"event\",\"type\":\"click\",\"target\":\"n1\"\x7d")⟩,
    ⟨calm, .loadSample (utf8 "none"),
      .request (asked (.loadSample (utf8 "none")) (utf8 "\x7b\"name\":\"none\"\x7d"))⟩,
    ⟨calm, .snapshot, .message (utf8 "\x7b\"action\":\"snapshot\"\x7d")⟩]

theorem admits_mixedPosts : ∀ p ∈ mixedPosts, (withOneSession 16).Admits (utf8 "S1") p := by
  have hcompiler : ∀ op source f, calm.compiler op source = .error f → f.message ≠ [] := by
    intro op source f h
    cases op <;> cases h
  simp only [mixedPosts, List.forall_mem_cons, List.not_mem_nil, false_imp_iff, implies_true, and_true]
  refine ⟨⟨by decide, by decide, hcompiler, ?_⟩, ⟨by decide, by decide, hcompiler, ?_⟩,
    ⟨by decide, by decide, hcompiler, ?_⟩, ⟨by decide, by decide, hcompiler, ?_⟩⟩
  · exact ⟨routes_asked 16 _ _, fun _ => ⟨⟨_, _, rfl, rfl, by decide⟩, by decide⟩⟩
  · exact ⟨⟨_, _, rfl, rfl, by decide⟩, by decide⟩
  · exact ⟨routes_asked 16 _ _, fun _ => ⟨⟨_, _, rfl, rfl, by decide⟩, by decide⟩⟩
  · exact ⟨⟨_, _, rfl, rfl, by decide⟩, by decide⟩

/-- What comes back for these four commands, by turns a response and a reply: the tree of the source, what
was clicked, that there is no such sample, and the tree again. -/
theorem transports_agree_mixedPosts :
    (withOneSession 16).store.get (utf8 "S1") = .ok (Session.new (utf8 "S1") .rune 0) ∧
    (∀ p ∈ mixedPosts, (withOneSession 16).Admits (utf8 "S1") p) ∧
    List.Forall₂ Tells ((withOneSession 16).sendAll (utf8 "S1") mixedPosts).1
      ((Session.new (utf8 "S1") .rune 0).exchanges (mixedPosts.map Post.step)) := by
  refine ⟨rfl, admits_mixedPosts, ?_⟩
  exact (transports_agree (withOneSession 16) rfl mixedPosts admits_mixedPosts).2.2

end Server

end SyntaxPlayground
