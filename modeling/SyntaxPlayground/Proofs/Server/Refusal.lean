import SyntaxPlayground.Proofs.Server.Delivery

/-!
# Which requests and messages are refused

The request for a command and the message for it are checked in two places. `refusals_compared` says how
the two checks compare: a message is refused only if the request is rejected, and a request is rejected
besides for two reasons, an empty source and a limit so large that it wraps around.
`emptySource_rejected_not_refused` is a source that gets to the compiler by one way and not by the other.
-/

namespace SyntaxPlayground

namespace Server

variable {s : Server} {around : Surroundings} {r : HttpRequest} {id data : Text} {session : Session}
  {c : Command}

/-- The request is answered with an error about itself, and changes nothing. -/
def Rejects (s : Server) (around : Surroundings) (r : HttpRequest) : Prop :=
  ∃ status message, (status = 400 ∨ status = 413) ∧
    s.handle around r = (.response (Wire.error status message), s)

/-- The message asks for nothing that a session could be given. -/
def Refuses (s : Server) (data : Text) : Prop :=
  ∀ m, SocketMessage.read? data = some m →
    ∃ problem, m.checkedCommand s.configuration.maxSourceBytes = .error problem

/-! ## Requests -/

theorem status_answerCommand (s : Server) (around : Surroundings) (id : Text) (c : Command) :
    (s.answerCommand around id c 200).1.status ≠ 400 ∧ (s.answerCommand around id c 200).1.status ≠ 413 := by
  unfold answerCommand
  rcases s.store.command around.compiler around.now id c with ⟨result, store⟩
  cases result with
  | ok a => simp [Wire.json]
  | error e => exact e.status_ne.2

/-- A command that gets to a session is never answered as a bad request. -/
theorem not_rejects (h : s.handle around r =
    (.response (s.answerCommand around id c 200).1, (s.answerCommand around id c 200).2)) :
    ¬ s.Rejects around r := by
  rintro ⟨status, message, hstatus, herror⟩
  rw [h] at herror
  have hresponse : (s.answerCommand around id c 200).1 = Wire.error status message :=
    Outcome.response.inj (congrArg Prod.fst herror)
  have hne := s.status_answerCommand around id c
  rw [hresponse] at hne
  rcases hstatus with rfl | rfl
  · exact hne.1 rfl
  · exact hne.2 rfl

theorem rejects_of_error (hget : s.store.get id = .ok session) (hroutes : s.Routes r id c.route)
    {e : BodyProblem} (hread : readCommand s.configuration.maxSourceBytes c.route r.body = .error e)
    (hstatus : e.status = 400 ∨ e.status = 413) : s.Rejects around r := by
  refine ⟨e.status, e.message, hstatus, ?_⟩
  rw [handle_route hget hroutes, hread]

/-- A text that stands for something is not empty. -/
theorem ne_nil_of_standsFor {t : Text} {fields : List (Text × Text)} (h : t.StandsFor fields) : t ≠ [] := by
  rintro rfl
  obtain ⟨v, record, hread, -⟩ := h
  cases hread

/-- A request is rejected if what it asks for is not within the limits or has an empty source, or if the
limit of its length wraps around. -/
theorem rejects_iff (around : Surroundings) (hget : s.store.get id = .ok session)
    (hroutes : s.Routes r id c.route) (hbody : r.body.StandsFor c.fields)
    (hlength : (r.body.length : Int) ≤ s.configuration.maxSourceBytes + envelopeBytes)
    (hmax : s.configuration.maxSourceBytes ≤ maxInt64) (hc : c ≠ .snapshot) :
    s.Rejects around r ↔
      ¬ (c.IsWithin s.configuration.maxSourceBytes ∧ c.source? ≠ some []) ∨
        maxInt64 < s.configuration.maxSourceBytes + envelopeBytes := by
  by_cases hwrap : maxInt64 < s.configuration.maxSourceBytes + envelopeBytes
  · -- nothing of the body is read
    have hread := readCommand_of_bodyLimit_eq_zero (bodyLimit_eq_zero hmax hwrap) (ne_nil_of_standsFor hbody) hc
    have hrejects : s.Rejects around r := rejects_of_error hget hroutes hread (Or.inr rfl)
    exact ⟨fun _ => Or.inr hwrap, fun _ => hrejects⟩
  · have hfits := length_le_bodyLimit (Int.not_lt.mp hwrap) hlength
    constructor
    · intro hrejects
      left
      rintro ⟨hwithin, hsource⟩
      exact not_rejects (handle_of_isWithin hget hroutes hbody hfits hwithin hsource around) hrejects
    · rintro (hnot | hwrap')
      · obtain ⟨e, hread, hstatus⟩ := exists_readCommand_eq_error hbody hfits hnot
        exact rejects_of_error hget hroutes hread hstatus
      · exact absurd hwrap' hwrap

/-! ## Messages -/

theorem refuses_iff (h : data.StandsFor c.messageFields) :
    s.Refuses data ↔ ¬ c.IsWithin s.configuration.maxSourceBytes := by
  have hread := SocketMessage.read?_of_standsFor h
  constructor
  · intro hrefuses hwithin
    obtain ⟨problem, herror⟩ := hrefuses _ hread
    rw [SocketMessage.checkedCommand_eq_ok hwithin] at herror
    cases herror
  · intro hnot m hm
    obtain rfl : c.message = m := Option.some.inj (hread.symm.trans hm)
    exact SocketMessage.exists_checkedCommand_eq_error hnot

theorem exists_receive_eq_error (hfits : s.isTooLong data = false) (h : data.StandsFor c.messageFields)
    (hrefuses : s.Refuses data) (around : Surroundings) (id : Text) :
    ∃ problem, s.receive around id data =
      (.message (SocketReply.write ⟨c.action, .error problem⟩), s) := by
  obtain ⟨problem, herror⟩ := hrefuses _ (SocketMessage.read?_of_standsFor h)
  refine ⟨problem, ?_⟩
  rw [receive_of_standsFor hfits h, herror]

/-! ## The comparison -/

/-- The request for a command is rejected exactly if the message for it is refused, or the source is empty,
or the limit wraps around. A refused message is answered with an error and changes nothing; what is neither
rejected nor refused gets to the session as the command that it is. -/
theorem refusals_compared (s : Server) (around : Surroundings) {id : Text} {session : Session}
    (hget : s.store.get id = .ok session) (hmax : s.configuration.maxSourceBytes ≤ maxInt64) {c : Command}
    (hc : c ≠ .snapshot) {r : HttpRequest} (hroutes : s.Routes r id c.route)
    (hbody : r.body.StandsFor c.fields)
    (hlength : (r.body.length : Int) ≤ s.configuration.maxSourceBytes + envelopeBytes) {data : Text}
    (hdata : data.StandsFor c.messageFields)
    (hlength' : (data.length : Int) ≤ s.configuration.maxSourceBytes + envelopeBytes) :
    (s.Rejects around r ↔ s.Refuses data ∨ c.source? = some [] ∨
      maxInt64 < s.configuration.maxSourceBytes + envelopeBytes) ∧
    (s.Refuses data → ∃ problem, s.receive around id data =
      (.message (SocketReply.write ⟨c.action, .error problem⟩), s)) ∧
    (¬ s.Rejects around r → s.handle around r =
      (.response (s.answerCommand around id c 200).1, (s.answerCommand around id c 200).2)) ∧
    (¬ s.Refuses data → s.receive around id data =
      (.message (s.socketCommand around id c.action c).1.write,
        (s.socketCommand around id c.action c).2)) := by
  have hfits := isTooLong_eq_false hmax hlength'
  have hrejects := rejects_iff around hget hroutes hbody hlength hmax hc
  have hrefuses := refuses_iff (s := s) hdata
  refine ⟨?_, ?_, ?_, ?_⟩
  · rw [hrejects, hrefuses, Classical.not_and_iff_not_or_not, Classical.not_not, or_assoc]
  · intro hrefused
    exact exists_receive_eq_error hfits hdata hrefused around id
  · intro hpasses
    rw [hrejects, not_or, Classical.not_not, Int.not_lt] at hpasses
    obtain ⟨⟨hwithin, hsource⟩, hlimit⟩ := hpasses
    exact handle_of_isWithin hget hroutes hbody (length_le_bodyLimit hlimit hlength) hwithin hsource around
  · intro hpasses
    rw [hrefuses, Classical.not_not] at hpasses
    exact receive_of_isWithin hfits hdata hpasses around id

/-- The request to tokenize five bytes. -/
def longRequest : HttpRequest :=
  asked (.tokenize (utf8 "abcde")) (utf8 "\x7b\"source\":\"abcde\"\x7d")

/-- The message to tokenize five bytes. -/
def longMessage : Text :=
  utf8 "\x7b\"action\":\"tokenize\",\"source\":\"abcde\"\x7d"

/-- Where four bytes are the limit, a source of five bytes is rejected and refused. -/
theorem refusals_compared_longSource :
    (withOneSession 4).store.get (utf8 "S1") = .ok (Session.new (utf8 "S1") .rune 0) ∧
    (withOneSession 4).Rejects calm longRequest ∧ (withOneSession 4).Refuses longMessage := by
  have hget : (withOneSession 4).store.get (utf8 "S1") = .ok (Session.new (utf8 "S1") .rune 0) := rfl
  have hbody : longRequest.body.StandsFor (Command.tokenize (utf8 "abcde")).fields :=
    ⟨_, _, rfl, rfl, by decide⟩
  have hdata : longMessage.StandsFor (Command.tokenize (utf8 "abcde")).messageFields :=
    ⟨_, _, rfl, rfl, by decide⟩
  have hrefuses := (refuses_iff (s := withOneSession 4) hdata).mpr (by decide)
  have hcompared := refusals_compared (withOneSession 4) calm hget (by decide) (by decide)
    (routes_asked 4 _ _) hbody (by decide) hdata (by decide)
  exact ⟨hget, hcompared.1.mpr (Or.inl hrefuses), hrefuses⟩

/-- The request to parse the empty source. -/
def emptyRequest : HttpRequest :=
  asked (.parse []) (utf8 "\x7b\"source\":\"\"\x7d")

/-- The message to parse the empty source. -/
def emptyMessage : Text :=
  utf8 "\x7b\"action\":\"parse\",\"source\":\"\"\x7d"

/-- An empty source is rejected when it comes in a request, and gets to the session when it comes in a
message. -/
theorem emptySource_rejected_not_refused :
    (withOneSession 4).store.get (utf8 "S1") = .ok (Session.new (utf8 "S1") .rune 0) ∧
    (withOneSession 4).Routes emptyRequest (utf8 "S1") (.run .parse) ∧
    emptyRequest.body.StandsFor [(utf8 "source", [])] ∧
    emptyMessage.StandsFor [(utf8 "action", utf8 "parse"), (utf8 "source", [])] ∧
    (emptyRequest.body.length : Int) ≤ 4 + envelopeBytes ∧ (emptyMessage.length : Int) ≤ 4 + envelopeBytes ∧
    (withOneSession 4).Rejects calm emptyRequest ∧ ¬ (withOneSession 4).Refuses emptyMessage := by
  have hbody : emptyRequest.body.StandsFor (Command.parse []).fields :=
    ⟨_, _, rfl, rfl, by decide⟩
  have hdata : emptyMessage.StandsFor (Command.parse []).messageFields :=
    ⟨_, _, rfl, rfl, by decide⟩
  have hroutes : (withOneSession 4).Routes emptyRequest (utf8 "S1") (Command.parse []).route :=
    routes_asked 4 _ _
  refine ⟨rfl, hroutes, hbody, hdata, by decide, by decide, ?_, ?_⟩
  · rw [rejects_iff calm rfl hroutes hbody (by decide) (by decide) (by decide)]
    exact Or.inl fun h => h.2 rfl
  · rw [refuses_iff hdata, Classical.not_not]
    decide

end Server

end SyntaxPlayground
