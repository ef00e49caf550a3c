import SyntaxPlayground.Proofs.Server.Admission
import SyntaxPlayground.Proofs.Text.Cutting

/-!
# How a command gets to its session

`Server.Routes` says that a request goes to a route of a session, with the key if one is asked for;
`routes_of_path` gives the methods and paths that do. What `handle` does with such a request, and `receive`
with a message, is then a matter of reading the command that it asks for (`handle_route`,
`receive_of_standsFor`) and of the length that it may have.
-/

namespace SyntaxPlayground

/-! ## Paths -/

namespace Command

/-- The method of the request for a command. -/
def verb : Command → Text
  | .snapshot => utf8 "GET"
  | _ => utf8 "POST"

/-- Where the request for a command goes, below the path of the session. -/
def subpath : Command → Text
  | .parse _ => utf8 "/parse"
  | .tokenize _ => utf8 "/tokenize"
  | .interpret _ => utf8 "/interpret"
  | .loadSample _ => utf8 "/sample"
  | .event .. => utf8 "/events"
  | .snapshot => []

theorem subpath_cases (c : Command) : c.subpath = [] ∨ c.subpath = 47 :: c.subpath.drop 1 := by
  cases c with
  | snapshot => exact Or.inl rfl
  | _ => exact Or.inr rfl

end Command

namespace Route

theorem isPrefixOf_append (start rest : Text) : start.isPrefixOf (start ++ rest) = true :=
  List.isPrefixOf_iff_prefix.mpr (List.prefix_append start rest)

theorem append_ne_of_not_start {start path rest : Text} (h : start.isPrefixOf path = false) :
    start ++ rest ≠ path := by
  rintro rfl
  rw [isPrefixOf_append] at h
  cases h

theorem after?_append (start rest : Text) : after? start (start ++ rest) = some rest := by
  rw [after?, if_pos (isPrefixOf_append start rest), List.drop_left]

/-- What follows the path of all sessions is an identifier and the rest. -/
theorem find_sessions {sockets : Bool} {method : Text} (hmethod : methods.contains method = true)
    {rest : Text} (hrest : rest ≠ []) :
    find sockets method (utf8 "/api/sessions/" ++ rest) =
      .ok (.session ((rest.cutByte? 47).getD (rest, [])).1
        (belowSession sockets method ((rest.cutByte? 47).getD (rest, [])).2)) := by
  have hother : ∀ path, (utf8 "/api/sessions/").isPrefixOf path = false →
      utf8 "/api/sessions/" ++ rest ≠ path := fun path => append_ne_of_not_start
  have hsample : after? (utf8 "/api/samples/") (utf8 "/api/sessions/" ++ rest) = none := by
    rfl
  simp only [find, hmethod, Bool.not_true, Bool.false_eq_true, if_false,
    hother (utf8 "/health") (by decide), hother (utf8 "/api/render") (by decide),
    hother (utf8 "/api/samples") (by decide), hother (utf8 "/api/stats/compiler") (by decide),
    hother (utf8 "/api/sessions") (by decide), hsample, after?_append, hrest]

theorem belowSession_subpath (sockets : Bool) (c : Command) :
    belowSession sockets c.verb (c.subpath.drop 1) = .ok c.route := by
  cases sockets <;> cases c <;> rfl

/-- The request for a command goes to the route of the command. -/
theorem find_subpath (sockets : Bool) {id : Text} (hid : id ≠ []) (hslash : 47 ∉ id) (c : Command) :
    find sockets c.verb (utf8 "/api/sessions/" ++ (id ++ c.subpath)) = .ok (.session id (.ok c.route)) := by
  have hmethod : methods.contains c.verb = true := by
    cases c <;> rfl
  have hrest : id ++ c.subpath ≠ [] := by
    simp [hid]
  have hcut : ((id ++ c.subpath).cutByte? 47).getD (id ++ c.subpath, []) = (id, c.subpath.drop 1) := by
    rcases c.subpath_cases with hnil | hcons
    · rw [hnil, List.append_nil, Text.cutByte?_of_notMem hslash]
      rfl
    · rw [hcons, Text.cutByte?_append hslash]
      rfl
  rw [find_sessions hmethod hrest, hcut, belowSession_subpath]

end Route

/-! ## Limits -/

theorem wrapInt64_of_le {n : Int} (hmin : minInt64 ≤ n) (hmax : n ≤ maxInt64) : wrapInt64 n = n := by
  simp only [minInt64, maxInt64] at hmin hmax
  simp only [wrapInt64, Int.bmod]
  omega

theorem wrapInt64_of_lt {n : Int} (hmax : maxInt64 < n) (hn : n ≤ maxInt64 + envelopeBytes) :
    wrapInt64 n < 0 := by
  simp only [maxInt64, envelopeBytes] at hmax hn
  simp only [wrapInt64, Int.bmod]
  omega

/-- As long as the limit does not wrap around, what keeps to it is read. -/
theorem length_le_bodyLimit {max : Int} (hmax : max + envelopeBytes ≤ maxInt64) {body : Text}
    (h : (body.length : Int) ≤ max + envelopeBytes) : body.length ≤ bodyLimit max := by
  have hmin : minInt64 ≤ max + envelopeBytes := by
    have hneg : minInt64 ≤ 0 := by decide
    omega
  rw [bodyLimit, wrapInt64_of_le hmin hmax]
  omega

/-- When the limit wraps around, nothing of a body is read. -/
theorem bodyLimit_eq_zero {max : Int} (hmax : max ≤ maxInt64) (hwrap : maxInt64 < max + envelopeBytes) :
    bodyLimit max = 0 := by
  have hneg : wrapInt64 (max + envelopeBytes) < 0 := wrapInt64_of_lt hwrap (by omega)
  rw [bodyLimit]
  omega

/-! ## Statuses -/

/-- What a session answers is neither a success nor about the request itself if it is an error. -/
theorem SessionError.status_ne (e : SessionError) : e.status ≠ 200 ∧ e.status ≠ 400 ∧ e.status ≠ 413 := by
  cases e with
  | compiler f =>
    simp only [status]
    split <;> decide
  | interrupted i => cases i <;> decide
  | event e => cases e <;> simp [status]
  | closed => decide
  | unknownSample e => simp [status]
  | mount e => simp [status]

namespace Server

variable {s : Server} {around : Surroundings} {r : HttpRequest} {id data : Text} {route : SessionRoute}
  {session : Session} {c : Command}

/-- A message that keeps to the limit is not too long, whether the limit wraps around or not. -/
theorem isTooLong_eq_false (hmax : s.configuration.maxSourceBytes ≤ maxInt64)
    (h : (data.length : Int) ≤ s.configuration.maxSourceBytes + envelopeBytes) :
    s.isTooLong data = false := by
  have hmin : minInt64 ≤ 0 := by decide
  simp only [isTooLong, Bool.and_eq_false_iff, decide_eq_false_iff_not]
  by_cases hwrap : maxInt64 < s.configuration.maxSourceBytes + envelopeBytes
  · have hneg := wrapInt64_of_lt hwrap (by omega)
    left
    omega
  · rw [wrapInt64_of_le (by omega) (by omega)]
    right
    omega

/-! ## Requests -/

/-- The request goes to a route of the session `id`, with the key if one is asked for. -/
def Routes (s : Server) (r : HttpRequest) (id : Text) (route : SessionRoute) : Prop :=
  s.keyRefusal? r = none ∧ ∃ path, r.path? = some path ∧
    Route.find s.configuration.socketEnabled r.verb path = .ok (.session id (.ok route))

/-- The methods and paths for the commands of a session. -/
theorem routes_of_path (hkey : s.keyRefusal? r = none) (hverb : r.verb = c.verb)
    (hpath : r.path? = some (utf8 "/api/sessions/" ++ (id ++ c.subpath))) (hid : id ≠ [])
    (hslash : 47 ∉ id) : s.Routes r id c.route := by
  refine ⟨hkey, _, hpath, ?_⟩
  rw [hverb]
  exact Route.find_subpath _ hid hslash c

theorem handle_of_routes (h : s.Routes r id route) (around : Surroundings) :
    s.handle around r = s.handleSession around r id route := by
  obtain ⟨hkey, path, hpath, hfind⟩ := h
  have hroute : s.handle around r = s.handleRoute around r (.session id (.ok route)) := by
    simp only [handle, hpath, hfind]
  rw [hroute]
  unfold handleRoute
  simp only [hkey]

/-- What becomes of the request for a command: it is refused for its body, or the session gets the command
that the body asks for. -/
theorem handle_route (hget : s.store.get id = .ok session) (h : s.Routes r id c.route)
    (around : Surroundings) :
    s.handle around r =
      match readCommand s.configuration.maxSourceBytes c.route r.body with
      | .error e => (.response (Wire.error e.status e.message), s)
      | .ok c => (.response (s.answerCommand around id c 200).1, (s.answerCommand around id c 200).2) := by
  rw [handle_of_routes h]
  unfold handleSession
  rw [hget]
  -- the routes of commands are those that are read
  cases c <;> rfl

/-- A session gets the command of every request that is within the limits and has no empty source. -/
theorem handle_of_isWithin (hget : s.store.get id = .ok session) (hroutes : s.Routes r id c.route)
    (hbody : r.body.StandsFor c.fields) (hfits : r.body.length ≤ bodyLimit s.configuration.maxSourceBytes)
    (hwithin : c.IsWithin s.configuration.maxSourceBytes) (hsource : c.source? ≠ some [])
    (around : Surroundings) :
    s.handle around r =
      (.response (s.answerCommand around id c 200).1, (s.answerCommand around id c 200).2) := by
  rw [handle_route hget hroutes, readCommand_eq_ok hbody hfits hwithin hsource]

/-- A body of which nothing is read is refused as too long. -/
theorem readCommand_of_bodyLimit_eq_zero {max : Int} {body : Text} (hlimit : bodyLimit max = 0)
    (hbody : body ≠ []) (hc : c ≠ .snapshot) :
    readCommand max c.route body = .error (.unreadable .tooLong) := by
  have hread : ∀ names, readBody max names body = .error (.unreadable .tooLong) := by
    intro names
    have hlength : 0 < body.length := List.length_pos_iff.mpr hbody
    simp only [readBody, hlimit, JsonValue.ofBody, List.take_zero, List.dropWhile_nil, hlength, if_true]
  cases c with
  | snapshot => exact absurd rfl hc
  | _ =>
    simp only [Command.route, readCommand, hread]
    rfl

/-! ## Messages -/

/-- What becomes of a message that asks for a command. -/
theorem receive_of_standsFor (hfits : s.isTooLong data = false) (h : data.StandsFor c.messageFields)
    (around : Surroundings) (id : Text) :
    s.receive around id data =
      match c.message.checkedCommand s.configuration.maxSourceBytes with
      | .error problem => (.message (SocketReply.write ⟨c.action, .error problem⟩), s)
      | .ok c' =>
        (.message (s.socketCommand around id c.action c').1.write,
          (s.socketCommand around id c.action c').2) := by
  have hread := SocketMessage.read?_of_standsFor h
  have haction : c.message.action = c.action := rfl
  simp only [receive, hfits, Bool.false_eq_true, if_false, answerMessage, hread, haction]
  cases c.message.checkedCommand s.configuration.maxSourceBytes with
  | error problem => rfl
  | ok c' => rfl

/-- A session gets the command of every message that is within the limits. -/
theorem receive_of_isWithin (hfits : s.isTooLong data = false) (h : data.StandsFor c.messageFields)
    (hwithin : c.IsWithin s.configuration.maxSourceBytes) (around : Surroundings) (id : Text) :
    s.receive around id data =
      (.message (s.socketCommand around id c.action c).1.write,
        (s.socketCommand around id c.action c).2) := by
  rw [receive_of_standsFor hfits h, SocketMessage.checkedCommand_eq_ok hwithin]

/-! ## A server with one session -/

/-- A compiler that answers every source, and a time. -/
def calm : Surroundings where
  compiler := .fixed (utf8 "Program @0..0") [] []
  now := 1
  random := fun _ => 0

/-- A server that asks for no key and has one new session. -/
def withOneSession (maxSourceBytes : Int) : Server where
  configuration := { maxSourceBytes }
  store := { unit := .rune, ttl := 0, limit := 0, registered := [Session.new (utf8 "S1") .rune 0] }

/-- The request for a command of the session, with the given body. -/
def asked (c : Command) (body : Text) : HttpRequest where
  method := c.verb
  target := utf8 "/api/sessions/S1" ++ c.subpath
  host := []
  body := body

theorem routes_asked (maxSourceBytes : Int) (c : Command) (body : Text) :
    (withOneSession maxSourceBytes).Routes (asked c body) (utf8 "S1") c.route := by
  have hverb : (asked c body).verb = c.verb := by
    cases c <;> rfl
  have hpath : (asked c body).path? = some (utf8 "/api/sessions/" ++ (utf8 "S1" ++ c.subpath)) := by
    cases c <;> rfl
  exact routes_of_path rfl hverb hpath (by decide) (by decide)

end Server

end SyntaxPlayground
