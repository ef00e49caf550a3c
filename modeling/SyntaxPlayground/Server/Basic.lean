import SyntaxPlayground.Configuration
import SyntaxPlayground.Server.Route
import SyntaxPlayground.Server.Validation
import SyntaxPlayground.Server.Wire

/-!
# The server

The server answers requests by routes and messages on sockets. Both drive the sessions of one store.
If an API key is configured, everything about sessions asks for it.

A request is answered by a pure function of the server's state; the compiler, the time and the
random bits for a new identifier are passed in.
-/

namespace SyntaxPlayground

/-- The state of the server. -/
structure Server where
  configuration : Configuration
  store : Store
  /-- The statistics of the compiler, if it keeps any. -/
  statistics : Option Statistics := none

/-- What the server needs to know about the outside for one request. -/
structure Surroundings where
  compiler : Compiler
  /-- The time in nanoseconds. -/
  now : Int
  /-- Random bits. -/
  random : Fin 8 → UInt8
  /-- Whether the connection can be turned into a socket. -/
  canUpgrade : Bool := true
  /-- The time when the calls of an operation are summarised, in nanoseconds. -/
  clock : Operation → Int := fun _ => now

/-- What becomes of a request. -/
inductive Outcome where
  | response (r : HttpResponse)
  /-- The connection becomes a socket of the session with the given identifier; the message is the
  first one sent on it. -/
  | socket (id : Text) (message : Text)
deriving DecidableEq, Repr

namespace Server

/-! ## Sessions -/

/-- Runs a command on a session and answers its outcome. -/
def answerCommand (s : Server) (around : Surroundings) (id : Text) (c : Command) (status : Nat) :
    HttpResponse × Server :=
  let (result, store) := s.store.command around.compiler around.now id c
  let response :=
    match result with
    | .ok a => Wire.json status (Wire.answer a)
    | .error e => Wire.error e.status e.message
  (response, { s with store })

/-- The command that the body of a request asks for. -/
def readCommand (maxSourceBytes : Int) (route : SessionRoute) (body : Text) :
    Except BodyProblem Command :=
  match route with
  | .look | .delete | .socket => .ok .snapshot
  | .run op => do
    let texts ← readBody maxSourceBytes [utf8 "source"] body
    let source := texts.getD 0 []
    if let some m := problems? [⟨utf8 "source", source, [.required], false⟩] then
      throw (.invalid m)
    let source ← checkSource maxSourceBytes source
    match op with
    | .parse => return .parse source
    | .tokenize => return .tokenize source
    | .interpret => return .interpret source
  | .sample => do
    let texts ← readBody maxSourceBytes [utf8 "name"] body
    let name := texts.getD 0 []
    if let some m := problems? [⟨utf8 "name", name, [.required, .atMost 64], false⟩] then
      throw (.invalid m)
    return .loadSample name
  | .event => do
    let texts ← readBody maxSourceBytes [utf8 "type", utf8 "target"] body
    let kind := texts.getD 0 []
    let target := texts.getD 1 []
    if let some m := problems? [
        ⟨utf8 "type", kind, [.required, .oneOf eventNames], false⟩,
        ⟨utf8 "target", target, [.required, .atMost 32], false⟩] then
      throw (.invalid m)
    return .event kind target

/-! ## Sockets -/

/-- The reply to a message on a socket. -/
structure SocketReply where
  action : Text := []
  result : Except Text Answer

namespace SocketReply

/-- The reply as text. An empty error is left out. -/
def write (r : SocketReply) : Text :=
  let success := match r.result with
    | .ok _ => true
    | .error _ => false
  let rest : List (Text × JsonValue) := match r.result with
    | .error message => if message = [] then [] else [(utf8 "error", .string message)]
    | .ok (.snapshot s) => [(utf8 "snapshot", Wire.snapshot s)]
    | .ok (.event e) => [(utf8 "event", Wire.eventResult e)]
  Wire.body (.object
    ([(utf8 "action", .string r.action), (utf8 "success", .bool success)] ++ rest))

end SocketReply

/-- The fields of a message on a socket. -/
structure SocketMessage where
  action : Text
  source : Text
  name : Text
  kind : Text
  target : Text
deriving DecidableEq, Repr

namespace SocketMessage

/-- The actions that a message may ask for. -/
def actions : List Text :=
  [utf8 "parse", utf8 "tokenize", utf8 "interpret", utf8 "sample", utf8 "event", utf8 "snapshot"]

/-- Reads a message. -/
def read? (data : Text) : Option SocketMessage := do
  let fields ← (← JsonValue.ofText? data).record?
  return {
    action := ← JsonValue.textField? fields (utf8 "action")
    source := ← JsonValue.textField? fields (utf8 "source")
    name := ← JsonValue.textField? fields (utf8 "name")
    kind := ← JsonValue.textField? fields (utf8 "type")
    target := ← JsonValue.textField? fields (utf8 "target") }

/-- What is wrong with the fields of a message, if anything. -/
def problem? (m : SocketMessage) : Option Text :=
  problems? [
    ⟨utf8 "action", m.action, [.required, .oneOf actions], false⟩,
    ⟨utf8 "name", m.name, [.atMost 64], false⟩,
    ⟨utf8 "type", m.kind, [.oneOf eventNames], true⟩,
    ⟨utf8 "target", m.target, [.atMost 32], false⟩]

/-- The command that a valid message asks for, or what is missing. -/
def command (maxSourceBytes : Int) (m : SocketMessage) : Except Text Command :=
  match Operation.ofName? m.action with
  | some op =>
    match checkSource maxSourceBytes m.source with
    | .error e => .error e.message
    | .ok source =>
      match op with
      | .parse => .ok (.parse source)
      | .tokenize => .ok (.tokenize source)
      | .interpret => .ok (.interpret source)
  | none =>
    if m.action = utf8 "sample" then
      if m.name = [] then .error (utf8 "name is required") else .ok (.loadSample m.name)
    else if m.action = utf8 "event" then
      if m.kind = [] ∨ m.target = [] then .error (utf8 "type and target are required")
      else .ok (.event m.kind m.target)
    else .ok .snapshot

/-- The command that a message asks for, or why it is refused. -/
def checkedCommand (maxSourceBytes : Int) (m : SocketMessage) : Except Text Command :=
  match m.problem? with
  | some problem => .error problem
  | none => m.command maxSourceBytes

end SocketMessage

/-- Runs a command for a message on a socket. -/
def socketCommand (s : Server) (around : Surroundings) (id action : Text) (c : Command) :
    SocketReply × Server :=
  let (result, store) := s.store.command around.compiler around.now id c
  (⟨action, result.mapError SessionError.message⟩, { s with store })

/-- Answers a message on a socket of the given session. What the JSON decoder itself says after
`invalid JSON` is left out. -/
def answerMessage (s : Server) (around : Surroundings) (id data : Text) : SocketReply × Server :=
  match SocketMessage.read? data with
  | none => (⟨[], .error (utf8 "invalid JSON")⟩, s)
  | some m =>
    match m.checkedCommand s.configuration.maxSourceBytes with
    | .error problem => (⟨m.action, .error problem⟩, s)
    | .ok c => s.socketCommand around id m.action c

/-- What comes back on a socket for a message. -/
inductive SocketOutcome where
  | message (t : Text)
  /-- The server closes the socket with a code. -/
  | closed (code : Nat)
deriving DecidableEq, Repr

/-- Whether a message is too long for a socket. There is no limit if it wraps around. -/
def isTooLong (s : Server) (data : Text) : Bool :=
  let limit := wrapInt64 (s.configuration.maxSourceBytes + envelopeBytes)
  0 < limit && limit < data.length

/-- Receives a message on a socket of the given session. -/
def receive (s : Server) (around : Surroundings) (id data : Text) : SocketOutcome × Server :=
  if s.isTooLong data then (.closed 1009, s)
  else
    let (reply, s) := s.answerMessage around id data
    (.message reply.write, s)

/-- The code that the server answers a normal close with. -/
def normalClosure : Nat := 1000

/-- Turns the connection of a request into a socket of the given session. -/
def openSocket (s : Server) (around : Surroundings) (r : HttpRequest) (id : Text) :
    Outcome × Server :=
  match r.socketRefusal? with
  | some refusal => (.response refusal, s)
  | none =>
    if around.canUpgrade then
      let (reply, s) := s.socketCommand around id (utf8 "snapshot") .snapshot
      (.socket id reply.write, s)
    else (.response (.plain 500 (utf8 "Internal Server Error")), s)

/-! ## Routes -/

/-- Answers a request about a session. -/
def handleSession (s : Server) (around : Surroundings) (r : HttpRequest) (id : Text)
    (route : SessionRoute) : Outcome × Server :=
  match s.store.get id with
  | .error e => (.response (Wire.error e.status e.message), s)
  | .ok _ =>
    match route with
    | .delete =>
      match s.store.delete id with
      | .error e => (.response (Wire.error e.status e.message), s)
      | .ok store =>
        (.response (Wire.json 200 (.object [(utf8 "status", .string (utf8 "deleted"))])),
          { s with store })
    | .socket => s.openSocket around r id
    | route =>
      match readCommand s.configuration.maxSourceBytes route r.body with
      | .error e => (.response (Wire.error e.status e.message), s)
      | .ok c =>
        let (response, s) := s.answerCommand around id c 200
        (.response response, s)

/-- Creates a session and answers what it shows. -/
def handleCreate (s : Server) (around : Surroundings) : HttpResponse × Server :=
  match s.store.create around.now around.random with
  | .error e => (Wire.error e.status e.message, s)
  | .ok (session, store) => answerCommand { s with store } around session.id .snapshot 201

/-- Renders a dump without a session. -/
def handleRender (s : Server) (r : HttpRequest) : HttpResponse :=
  match readBody s.configuration.maxSourceBytes [utf8 "dump"] r.body with
  | .error e => Wire.error e.status e.message
  | .ok texts =>
    let tree := Tree.ofDump? (texts.getD 0 [])
    Wire.json 200 (.object [
      (utf8 "valid", .bool tree.isSome),
      (utf8 "html", .string (renderTree tree)),
      (utf8 "nodes", .nat ((tree.map Tree.count).getD 0))])

/-- Answers the statistics of the compiler. -/
def handleStatistics (s : Server) (clock : Operation → Int) : HttpResponse × Server :=
  match s.statistics with
  | none => (Wire.error 503 (utf8 "compiler stats unavailable"), s)
  | some statistics =>
    let (summaries, statistics) := statistics.summarizeAll clock
    (Wire.json 200 (.object [
      (utf8 "compiler_url", .string s.configuration.compilerUrl),
      (utf8 "stats", Wire.summaries summaries)]), { s with statistics := some statistics })

/-- Why a request about sessions is refused for want of the key, if it is. -/
def keyRefusal? (s : Server) (r : HttpRequest) : Option HttpResponse :=
  let refuse (reason : Text) :=
    some (HttpResponse.plain 401 (JsonValue.object [(utf8 "error", .string reason)]).write)
  if s.configuration.apiKey = [] then none
  else if r.token = [] then refuse (utf8 "missing authorization")
  else if r.token ≠ s.configuration.apiKey then refuse (utf8 "invalid api key")
  else none

/-- The response to a request that goes nowhere. -/
def answerRouteError : RouteError → HttpResponse
  | .notFound => .notFound
  | .methodNotAllowed => .methodNotAllowed

/-- Answers a request on its route. -/
def handleRoute (s : Server) (around : Surroundings) (r : HttpRequest) (route : Route) :
    Outcome × Server :=
  match route with
  | .health =>
    (.response ⟨200, utf8 "application/json",
      (JsonValue.object [(utf8 "status", .string (utf8 "ok"))]).write⟩, s)
  | .render => (.response (s.handleRender r), s)
  | .samples =>
    (.response (Wire.json 200 (.object [
      (utf8 "samples", .array (Catalog.builtin.map Wire.sample))])), s)
  | .sample name =>
    match Catalog.builtin.get name with
    | .ok sample => (.response (Wire.json 200 (Wire.sample sample)), s)
    | .error e => (.response (Wire.error 404 e.message), s)
  | .statistics =>
    let (response, s) := s.handleStatistics around.clock
    (.response response, s)
  | .create =>
    match s.keyRefusal? r with
    | some refusal => (.response refusal, s)
    | none =>
      let (response, s) := s.handleCreate around
      (.response response, s)
  | .session id route =>
    match s.keyRefusal? r with
    | some refusal => (.response refusal, s)
    | none =>
      match route with
      | .error e => (.response (answerRouteError e), s)
      | .ok route => s.handleSession around r id route

/-- Answers a request. -/
def handle (s : Server) (around : Surroundings) (r : HttpRequest) : Outcome × Server :=
  match r.path? with
  | none => (.response (.plain 400 (utf8 "Bad Request")), s)
  | some path =>
    match Route.find s.configuration.socketEnabled r.verb path with
    | .error e => (.response (answerRouteError e), s)
    | .ok route => s.handleRoute around r route

end Server

end SyntaxPlayground
