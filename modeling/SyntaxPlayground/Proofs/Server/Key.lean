import SyntaxPlayground.Proofs.Server.Transport

/-!
# What the key protects

If a key is configured, a request about sessions that does not present it gets a response that does not
depend on the sessions, and changes nothing (`handle_of_bars`). So such requests may be left out of any course
of events without anybody else noticing (`serve_filter`). With the key a request is answered as if no key had
been configured (`handle_withKey`). `key_guards_sessions` puts the three together.
-/

namespace SyntaxPlayground

/-! ## Requests about sessions -/

/-- The request is about sessions: its path begins with that of the sessions. -/
def HttpRequest.isToSessions (r : HttpRequest) : Bool :=
  match r.path? with
  | some path => (utf8 "/api/sessions").isPrefixOf path
  | none => false

/-- The request is about sessions and does not present the key. -/
def Configuration.bars (c : Configuration) (r : HttpRequest) : Bool :=
  r.isToSessions && r.token != c.apiKey

namespace Route

theorem choose_singleton {α : Type} (method verb : Text) (a : α) :
    choose method [(verb, a)] = .ok a ∨ choose method [(verb, a)] = .error .methodNotAllowed := by
  unfold choose
  rw [List.lookup_cons]
  cases method == verb with
  | true => exact Or.inl rfl
  | false => exact Or.inr rfl

/-- Where a request about sessions may go. -/
theorem find_of_isPrefixOf {path : Text} (h : (utf8 "/api/sessions").isPrefixOf path = true)
    (sockets : Bool) (method : Text) :
    (∃ e, find sockets method path = .error e) ∨ find sockets method path = .ok .create ∨
      ∃ id route, find sockets method path = .ok (.session id route) := by
  obtain ⟨rest, rfl⟩ := List.isPrefixOf_iff_prefix.mp h
  have hother : ∀ path, (utf8 "/api/sessions").isPrefixOf path = false →
      utf8 "/api/sessions" ++ rest ≠ path := fun path => append_ne_of_not_start
  have hsample : after? (utf8 "/api/samples/") (utf8 "/api/sessions" ++ rest) = none := by
    rfl
  simp only [find, hother (utf8 "/health") (by decide), hother (utf8 "/api/render") (by decide),
    hother (utf8 "/api/samples") (by decide), hother (utf8 "/api/stats/compiler") (by decide),
    hsample, if_false]
  split
  · exact Or.inl ⟨_, rfl⟩
  · split
    · rcases choose_singleton method (utf8 "POST") Route.create with hcreate | herror
      · exact Or.inr (Or.inl hcreate)
      · exact Or.inl ⟨_, herror⟩
    · cases after? (utf8 "/api/sessions/") (utf8 "/api/sessions" ++ rest) with
      | none => exact Or.inl ⟨_, rfl⟩
      | some below =>
        dsimp only
        split
        · exact Or.inl ⟨_, rfl⟩
        · exact Or.inr (Or.inr ⟨_, _, rfl⟩)

end Route

namespace Server

variable {s : Server} {c : Configuration} {around : Surroundings} {r : HttpRequest}

/-! ## Requests without the key -/

/-- A request with another token than the key is refused, whatever sessions there are. -/
theorem keyRefusal?_of_ne (hkey : c.apiKey ≠ []) (htoken : r.token ≠ c.apiKey) :
    ∃ refusal : HttpResponse, refusal.status = 401 ∧
      ∀ s : Server, s.configuration = c → s.keyRefusal? r = some refusal := by
  by_cases hnone : r.token = []
  · refine ⟨.plain 401 (JsonValue.object [(utf8 "error", .string (utf8 "missing authorization"))]).write,
      rfl, ?_⟩
    rintro s rfl
    rw [keyRefusal?, if_neg hkey, if_pos hnone]
  · refine ⟨.plain 401 (JsonValue.object [(utf8 "error", .string (utf8 "invalid api key"))]).write,
      rfl, ?_⟩
    rintro s rfl
    rw [keyRefusal?, if_neg hkey, if_neg hnone, if_pos htoken]

theorem handleRoute_create_of_refusal {refusal : HttpResponse} (h : s.keyRefusal? r = some refusal) :
    s.handleRoute around r .create = (.response refusal, s) := by
  unfold handleRoute
  simp only [h]

theorem handleRoute_session_of_refusal {refusal : HttpResponse} (h : s.keyRefusal? r = some refusal)
    (id : Text) (route : Except RouteError SessionRoute) :
    s.handleRoute around r (.session id route) = (.response refusal, s) := by
  unfold handleRoute
  simp only [h]

theorem status_answerRouteError (e : RouteError) :
    (answerRouteError e).status = 404 ∨ (answerRouteError e).status = 405 := by
  cases e with
  | notFound => exact Or.inl rfl
  | methodNotAllowed => exact Or.inr rfl

/-- A request about sessions without the key gets one response, whatever sessions there are, and changes
nothing. -/
theorem handle_of_bars (hkey : c.apiKey ≠ []) (h : c.bars r = true) :
    ∃ response : HttpResponse,
      (response.status = 401 ∨ response.status = 404 ∨ response.status = 405) ∧
      ∀ (s : Server) (around : Surroundings), s.configuration = c →
        s.handle around r = (.response response, s) := by
  rw [Configuration.bars, Bool.and_eq_true, bne_iff_ne] at h
  obtain ⟨hsessions, htoken⟩ := h
  obtain ⟨refusal, hstatus, hrefusal⟩ := keyRefusal?_of_ne hkey htoken
  unfold HttpRequest.isToSessions at hsessions
  cases hpath : r.path? with
  | none =>
    rw [hpath] at hsessions
    cases hsessions
  | some path =>
    rw [hpath] at hsessions
    rcases Route.find_of_isPrefixOf hsessions c.socketEnabled r.verb with
      ⟨e, hfind⟩ | hfind | ⟨id, route, hfind⟩
    · refine ⟨answerRouteError e, Or.inr (status_answerRouteError e), ?_⟩
      rintro s around rfl
      simp only [handle, hpath, hfind]
    · refine ⟨refusal, Or.inl hstatus, ?_⟩
      rintro s around rfl
      simp only [handle, hpath, hfind, handleRoute_create_of_refusal (hrefusal s rfl)]
    · refine ⟨refusal, Or.inl hstatus, ?_⟩
      rintro s around rfl
      simp only [handle, hpath, hfind, handleRoute_session_of_refusal (hrefusal s rfl)]

/-! ## With the key -/

/-- The server with another key, or with none. -/
def withKey (s : Server) (key : Text) : Server :=
  { s with configuration := { s.configuration with apiKey := key } }

theorem keyRefusal?_withKey_nil (s : Server) (r : HttpRequest) : (s.withKey []).keyRefusal? r = none := by
  rfl

theorem keyRefusal?_of_eq (h : r.token = s.configuration.apiKey) : s.keyRefusal? r = none := by
  unfold keyRefusal?
  by_cases hkey : s.configuration.apiKey = []
  · rw [if_pos hkey]
  · rw [if_neg hkey, h, if_neg hkey, if_neg (not_not_intro rfl)]

theorem openSocket_withKey (key : Text) (id : Text) :
    (s.withKey key).openSocket around r id =
      ((s.openSocket around r id).1, (s.openSocket around r id).2.withKey key) := by
  unfold openSocket
  cases r.socketRefusal? with
  | some refusal => rfl
  | none =>
    dsimp only
    split
    · rfl
    · rfl

theorem handleSession_withKey (key : Text) (id : Text) (route : SessionRoute) :
    (s.withKey key).handleSession around r id route =
      ((s.handleSession around r id route).1, (s.handleSession around r id route).2.withKey key) := by
  have hstore : (s.withKey key).store = s.store := rfl
  have hmax : (s.withKey key).configuration.maxSourceBytes = s.configuration.maxSourceBytes := rfl
  unfold handleSession
  rw [hstore, hmax]
  cases s.store.get id with
  | error e => rfl
  | ok session =>
    dsimp only
    split
    · cases s.store.delete id with
      | error e => rfl
      | ok store => rfl
    · exact openSocket_withKey key id
    · cases readCommand s.configuration.maxSourceBytes route r.body with
      | error e => rfl
      | ok command => rfl

theorem handleCreate_withKey (key : Text) :
    (s.withKey key).handleCreate around =
      ((s.handleCreate around).1, (s.handleCreate around).2.withKey key) := by
  have hstore : (s.withKey key).store = s.store := rfl
  unfold handleCreate
  rw [hstore]
  cases s.store.create around.now around.random with
  | error e => rfl
  | ok created => rfl

theorem handleStatistics_withKey (key : Text) (clock : Operation → Int) :
    (s.withKey key).handleStatistics clock =
      ((s.handleStatistics clock).1, (s.handleStatistics clock).2.withKey key) := by
  have hstatistics : (s.withKey key).statistics = s.statistics := rfl
  unfold handleStatistics
  rw [hstatistics]
  cases s.statistics with
  | none => rfl
  | some statistics => rfl

/-- A route is answered as by a server without a key to a request that is not refused. -/
theorem handleRoute_withKey (h : s.keyRefusal? r = none) (route : Route) :
    (s.withKey []).handleRoute around r route =
      ((s.handleRoute around r route).1, (s.handleRoute around r route).2.withKey []) := by
  unfold handleRoute
  -- the samples themselves do not matter
  obtain ⟨catalog, hcatalog⟩ : ∃ catalog, Catalog.builtin = catalog := ⟨_, rfl⟩
  rw [hcatalog]
  cases route with
  | health => rfl
  | render => rfl
  | samples => rfl
  | sample name =>
    dsimp only
    split
    · rfl
    · rfl
  | statistics =>
    dsimp only
    rw [handleStatistics_withKey]
  | create =>
    dsimp only
    rw [h, keyRefusal?_withKey_nil, handleCreate_withKey]
  | session id route =>
    dsimp only
    rw [h, keyRefusal?_withKey_nil]
    cases route with
    | error e => rfl
    | ok route => exact handleSession_withKey [] id route

/-- With the key a request is answered as if there were none. -/
theorem handle_withKey (h : r.token = s.configuration.apiKey) (around : Surroundings) :
    (s.withKey []).handle around r =
      ((s.handle around r).1, (s.handle around r).2.withKey []) := by
  have hsockets : (s.withKey []).configuration.socketEnabled = s.configuration.socketEnabled := rfl
  unfold handle
  rw [hsockets]
  cases r.path? with
  | none => rfl
  | some path =>
    dsimp only
    cases Route.find s.configuration.socketEnabled r.verb path with
    | error e => rfl
    | ok route => exact handleRoute_withKey (keyRefusal?_of_eq h) route

/-! ## The configuration stays -/

theorem configuration_openSocket (s : Server) (around : Surroundings) (r : HttpRequest) (id : Text) :
    (s.openSocket around r id).2.configuration = s.configuration := by
  unfold openSocket
  split
  · rfl
  · split
    · rfl
    · rfl

theorem configuration_handleSession (s : Server) (around : Surroundings) (r : HttpRequest) (id : Text)
    (route : SessionRoute) : (s.handleSession around r id route).2.configuration = s.configuration := by
  unfold handleSession
  split
  · rfl
  · split
    · split
      · rfl
      · rfl
    · exact configuration_openSocket s around r id
    · split
      · rfl
      · rfl

theorem configuration_handleCreate (s : Server) (around : Surroundings) :
    (s.handleCreate around).2.configuration = s.configuration := by
  unfold handleCreate
  split
  · rfl
  · rfl

theorem configuration_handleStatistics (s : Server) (clock : Operation → Int) :
    (s.handleStatistics clock).2.configuration = s.configuration := by
  unfold handleStatistics
  split
  · rfl
  · rfl

theorem configuration_handleRoute (s : Server) (around : Surroundings) (r : HttpRequest) (route : Route) :
    (s.handleRoute around r route).2.configuration = s.configuration := by
  unfold handleRoute
  obtain ⟨catalog, hcatalog⟩ : ∃ catalog, Catalog.builtin = catalog := ⟨_, rfl⟩
  rw [hcatalog]
  cases route with
  | health => rfl
  | render => rfl
  | samples => rfl
  | sample name =>
    dsimp only
    split
    · rfl
    · rfl
  | statistics => exact configuration_handleStatistics s around.clock
  | create =>
    dsimp only
    split
    · rfl
    · exact configuration_handleCreate s around
  | session id route =>
    dsimp only
    split
    · rfl
    · split
      · rfl
      · exact configuration_handleSession s around r id _

theorem configuration_handle (s : Server) (around : Surroundings) (r : HttpRequest) :
    (s.handle around r).2.configuration = s.configuration := by
  unfold handle
  split
  · rfl
  · split
    · rfl
    · exact configuration_handleRoute s around r _

theorem configuration_answerMessage (s : Server) (around : Surroundings) (id data : Text) :
    (s.answerMessage around id data).2.configuration = s.configuration := by
  unfold answerMessage
  split
  · rfl
  · split
    · rfl
    · rfl

theorem configuration_receive (s : Server) (around : Surroundings) (id data : Text) :
    (s.receive around id data).2.configuration = s.configuration := by
  unfold receive
  split
  · rfl
  · exact configuration_answerMessage s around id data

/-! ## Courses of events -/

/-- Something that gets to the server, and what the server meets then: a request, or a message on a socket of
the session `id`. -/
structure Arrival where
  around : Surroundings
  id : Text
  sending : Sending

/-- It is a request about sessions that does not present the key. -/
def Arrival.isBarred (c : Configuration) (a : Arrival) : Bool :=
  match a.sending with
  | .request r => c.bars r
  | .message _ => false

/-- What comes back for everything that gets to the server, one after the other. -/
def serve (s : Server) : List Arrival → List (Arrival × Receipt) × Server
  | [] => ([], s)
  | a :: arrivals =>
    ((a, (s.send a.around a.id a.sending).1) ::
        ((s.send a.around a.id a.sending).2.serve arrivals).1,
      ((s.send a.around a.id a.sending).2.serve arrivals).2)

theorem configuration_send (s : Server) (around : Surroundings) (id : Text) (sending : Sending) :
    (s.send around id sending).2.configuration = s.configuration := by
  cases sending with
  | request r => exact configuration_handle s around r
  | message data => exact configuration_receive s around id data

theorem send_of_isBarred {a : Arrival} (hkey : s.configuration.apiKey ≠ [])
    (h : a.isBarred s.configuration = true) : (s.send a.around a.id a.sending).2 = s := by
  obtain ⟨around, id, sending⟩ := a
  cases sending with
  | request r =>
    obtain ⟨response, -, hhandle⟩ := handle_of_bars hkey h
    exact congrArg Prod.snd (hhandle s around rfl)
  | message data => cases h

/-- What is refused for want of the key may as well not have happened. -/
theorem serve_filter (hkey : s.configuration.apiKey ≠ []) (arrivals : List Arrival) :
    s.serve (arrivals.filter fun a => !a.isBarred s.configuration) =
      ((s.serve arrivals).1.filter fun x => !x.1.isBarred s.configuration, (s.serve arrivals).2) := by
  induction arrivals generalizing s with
  | nil => rfl
  | cons a arrivals ih =>
    by_cases hbarred : a.isBarred s.configuration = true
    · have hrest := ih hkey
      simp only [serve, send_of_isBarred hkey hbarred, List.filter_cons, hbarred, Bool.not_true,
        Bool.false_eq_true, if_false]
      exact hrest
    · have hsame := configuration_send s a.around a.id a.sending
      have hkey' : (s.send a.around a.id a.sending).2.configuration.apiKey ≠ [] := by
        rw [hsame]
        exact hkey
      have hrest := ih hkey'
      rw [hsame] at hrest
      simp only [serve, List.filter_cons, Bool.eq_false_iff.mpr hbarred, Bool.not_false, if_true, hrest]

/-- Where a key is configured, a request about sessions that does not present it gets the same response
whatever sessions there are, namely that the key is missing or wrong, or that there is no such path or method,
and leaves the whole server as it is. So in any course of events in which requests and messages arrive, what
comes back for all others, and the server in the end, are what they would be without such requests. A request
with the key is answered exactly as by a server that asks for none. -/
theorem key_guards_sessions (c : Configuration) (hkey : c.apiKey ≠ []) :
    (∀ r, c.bars r = true → ∃ response : HttpResponse,
      (response.status = 401 ∨ response.status = 404 ∨ response.status = 405) ∧
      ∀ (s : Server) (around : Surroundings), s.configuration = c →
        s.handle around r = (.response response, s)) ∧
    (∀ (s : Server) (arrivals : List Arrival), s.configuration = c →
      s.serve (arrivals.filter fun a => !a.isBarred c) =
        ((s.serve arrivals).1.filter fun x => !x.1.isBarred c, (s.serve arrivals).2)) ∧
    (∀ (s : Server) (around : Surroundings) (r : HttpRequest), s.configuration = c → r.token = c.apiKey →
      (s.withKey []).handle around r =
        ((s.handle around r).1, (s.handle around r).2.withKey [])) := by
  refine ⟨fun r hbars => handle_of_bars hkey hbars, ?_, ?_⟩
  · rintro s arrivals rfl
    exact serve_filter hkey arrivals
  · rintro s around r rfl htoken
    exact handle_withKey htoken around

/-- A configuration with a key. -/
def lockedConfiguration : Configuration where
  apiKey := utf8 "key"

/-- A server that asks for the key. -/
def locked (sessions : List Session) : Server where
  configuration := lockedConfiguration
  store := { unit := .rune, ttl := 0, limit := 0, registered := sessions }

/-- The request to delete a session, with a key in its header. -/
def deletion (key : Text) : HttpRequest where
  method := utf8 "DELETE"
  target := utf8 "/api/sessions/S1"
  host := []
  headers := [(utf8 "Authorization", utf8 "Bearer " ++ key)]

/-- The request to delete a session, as it gets to the server. -/
def deletionArrives (key : Text) : Arrival where
  around := calm
  id := []
  sending := .request (deletion key)

/-- With a wrong key a deletion is answered alike whether the session exists or not, and is not noticed by
who deletes the session with the right one. -/
theorem key_guards_sessions_deletion :
    lockedConfiguration.apiKey ≠ [] ∧ lockedConfiguration.bars (deletion (utf8 "other")) = true ∧
    (deletion (utf8 "key")).token = lockedConfiguration.apiKey ∧
    (∃ response,
      (locked []).handle calm (deletion (utf8 "other")) = (.response response, locked []) ∧
      (locked [Session.new (utf8 "S1") .rune 0]).handle calm (deletion (utf8 "other")) =
        (.response response, locked [Session.new (utf8 "S1") .rune 0])) ∧
    (locked [Session.new (utf8 "S1") .rune 0]).serve [deletionArrives (utf8 "key")] =
      (((locked [Session.new (utf8 "S1") .rune 0]).serve
          [deletionArrives (utf8 "other"), deletionArrives (utf8 "key")]).1.filter
            (fun x => !x.1.isBarred lockedConfiguration),
        ((locked [Session.new (utf8 "S1") .rune 0]).serve
          [deletionArrives (utf8 "other"), deletionArrives (utf8 "key")]).2) ∧
    ((locked [Session.new (utf8 "S1") .rune 0]).withKey []).handle calm (deletion (utf8 "key")) =
      (.response (Wire.json 200 (.object [(utf8 "status", .string (utf8 "deleted"))])),
        ((locked [Session.new (utf8 "S1") .rune 0]).handle calm (deletion (utf8 "key"))).2.withKey []) := by
  have hkey : lockedConfiguration.apiKey ≠ [] := by decide
  have hbars : lockedConfiguration.bars (deletion (utf8 "other")) = true := by decide
  have htoken : (deletion (utf8 "key")).token = lockedConfiguration.apiKey := by decide
  obtain ⟨hbarred, hserve, hopen⟩ := key_guards_sessions lockedConfiguration hkey
  obtain ⟨response, -, hresponse⟩ := hbarred _ hbars
  exact ⟨hkey, hbars, htoken, ⟨response, hresponse _ calm rfl, hresponse _ calm rfl⟩,
    hserve (locked [Session.new (utf8 "S1") .rune 0])
      [deletionArrives (utf8 "other"), deletionArrives (utf8 "key")] rfl,
    hopen (locked [Session.new (utf8 "S1") .rune 0]) calm (deletion (utf8 "key")) rfl htoken⟩

end Server

end SyntaxPlayground
