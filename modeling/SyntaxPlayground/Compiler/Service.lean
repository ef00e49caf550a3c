import SyntaxPlayground.Compiler.Statistics
import SyntaxPlayground.Json.Field
import SyntaxPlayground.Json.Reader
import SyntaxPlayground.Notice
import SyntaxPlayground.Url.Basic

/-!
# The compiler service

The compiler proper runs elsewhere. A call sends the source to the service's address and reads the
answer; when the service says it is busy, the call is repeated after a wait, three times at most.
Every attempt is recorded in the statistics.
-/

namespace SyntaxPlayground

/-- A request to the service. -/
structure ServiceRequest where
  url : Text
  /-- The address as errors show it. -/
  shownUrl : Text
  /-- What goes into the `Authorization` header; empty if there is neither a key nor a user. -/
  authorization : Text
  body : Text
deriving DecidableEq, Repr

namespace ServiceRequest

/-- Every request has this method. -/
def method : Text := utf8 "POST"

/-- Every body is of this type. -/
def contentType : Text := utf8 "application/json"

end ServiceRequest

/-- What the network gives back for a request. -/
inductive ServiceReply where
  /-- An answer; when it is `broken` the connection fails after the body, for the given cause. -/
  | answer (status : Int) (body : Text) (broken : Bool) (cause : Text := utf8 "connection reset")
  /-- The request did not get through. -/
  | unreachable (cause : Text)
deriving DecidableEq, Repr, Inhabited

/-- The world outside: what comes back for each request ever made and when each attempt ended. -/
structure Network where
  /-- The reply to a request, by its number. -/
  reply : Nat → ServiceReply
  /-- When an attempt ended, by its number, in nanoseconds. -/
  clock : Nat → Int
  /-- How long an attempt took, by its number, in milliseconds. -/
  took : Nat → Int

/-- Where the service is and how to ask it. -/
structure Service where
  baseUrl : Text
  apiKey : Text := []
deriving DecidableEq, Repr

/-- What a client of the service has done so far. -/
structure ServiceHistory where
  /-- The requests made, oldest first. -/
  requests : List ServiceRequest := []
  /-- The number of attempts, whether or not they got as far as a request. -/
  attempts : Nat := 0
  /-- The attempts after which it waited, oldest first. -/
  waits : List Nat := []
  statistics : Statistics := .empty Statistics.hour
  log : List Notice := []
  /-- Whether the caller has given up. -/
  canceled : Bool := false
deriving DecidableEq, Repr

/-! ## Answers -/

/-- An error that the service reports in its answer. -/
structure ServiceReport where
  kind : Text := []
  message : Text := []
deriving DecidableEq, Repr

namespace ServiceReport

/-- Reads a report over the one there is. -/
def read? (current : Option ServiceReport) : JsonValue → Option (Option ServiceReport)
  | .null => some none
  | .object fields =>
    let r := current.getD {}
    match JsonValue.field? fields (utf8 "type") r.kind JsonValue.readText?,
      JsonValue.field? fields (utf8 "message") r.message JsonValue.readText? with
    | some kind, some message => some (some ⟨kind, message⟩)
    | _, _ => none
  | _ => none

end ServiceReport

namespace Service

/-- How many times a call is repeated. -/
def maxRetries : Nat := 3

/-- How many bytes of a body are read. -/
def bodyLimit : Nat := 8388608

/-- Reads the body of a successful answer. What the JSON decoder itself says after `decode response`
is left out. -/
def readAnswer (body : Text) : Except Failure Text :=
  let parts? := do
    let fields ← (← JsonValue.ofText? body).record?
    let output ← JsonValue.textField? fields (utf8 "output")
    let report ← JsonValue.field? fields (utf8 "error") none ServiceReport.read?
    return (output, report)
  match parts? with
  | none => .error (.plain (utf8 "decode response"))
  | some (_, some report) =>
    .error (.during (utf8 "compiler error") (.during report.kind (.plain report.message)))
  | some (output, none) => .ok output

/-- What an answer with the given status and body means. -/
def readStatus (status : Int) (body : Text) : Except Failure Text :=
  if status = 429 ∨ 500 ≤ status then .error (.transient status body)
  else if status ≠ 200 then
    .error (.during (utf8 "status " ++ Text.ofInt status) (.plain (body.excerpt Failure.shownBytes)))
  else readAnswer body

/-- What the reply to a request for `url`, as errors show it, means. -/
def readReply (url : Text) : ServiceReply → Except Failure Text
  | .unreachable cause =>
    .error (.during (utf8 "send request") (.during (utf8 "Post " ++ url.quoted) (.plain cause)))
  | .answer status body broken cause =>
    if broken ∧ body.length < bodyLimit then
      .error (.during (utf8 "read response") (.plain cause))
    else readStatus status (body.take bodyLimit)

/-! ## Calls -/

/-- The address of an operation. -/
def address (s : Service) (op : Operation) : Text :=
  s.baseUrl.dropTrailing (· = 47) ++ [47] ++ op.name

/-- The request for an operation on a source. -/
def request (s : Service) (op : Operation) (source : Text) : Except Failure ServiceRequest :=
  match Url.read (s.address op) with
  | .error e => .error (.during (utf8 "create request") (.plain e.message))
  | .ok url =>
    .ok {
      url := url.dropEmptyPort.write
      shownUrl := url.dropEmptyPort.shown
      authorization :=
        if s.apiKey = [] then (url.user.map UrlUser.credentials).getD []
        else utf8 "Bearer " ++ s.apiKey
      body := (JsonValue.object [(utf8 "source", .string source)]).write }

/-- One attempt: the request takes the next reply of the network. -/
def attempt (s : Service) (network : Network) (op : Operation) (source : Text)
    (h : ServiceHistory) : Except Failure Text × ServiceHistory :=
  let (result, h) : Except Failure Text × ServiceHistory :=
    match s.request op source with
    | .error e => (.error e, h)
    | .ok r =>
      (readReply r.shownUrl (network.reply h.requests.length), { h with requests := h.requests ++ [r] })
  (result,
    { h with
      attempts := h.attempts + 1
      statistics := h.statistics.record op.name (network.clock h.attempts)
        (network.took h.attempts) (!result.isOk) })

/-- The attempts of a call from number `n` on, of which `retries` may be repeated. The caller gives
up in the wait after the attempt `giveUpAt`. -/
def attemptsFrom (s : Service) (network : Network) (giveUpAt : Option Nat) (op : Operation)
    (source : Text) : Nat → Nat → ServiceHistory → Except Failure Text × ServiceHistory
  | retries, n, h =>
    match s.attempt network op source h with
    | (.ok out, h) => (.ok out, h)
    | (.error e, h) =>
      let failed := Except.error (.during (utf8 "compiler " ++ op.name) e)
      match retries with
      | 0 => (failed, h)
      | retries + 1 =>
        if e.isTransient then
          let h := { h with
            waits := h.waits ++ [n]
            log := h.log ++ [.retrying]
            canceled := h.canceled || giveUpAt == some n }
          if h.canceled then (.error (.interrupted .canceled), h)
          else attemptsFrom s network giveUpAt op source retries (n + 1) h
        else (failed, h)

/-- Calls the service. -/
def call (s : Service) (network : Network) (giveUpAt : Option Nat) (op : Operation)
    (source : Text) (h : ServiceHistory) : Except Failure Text × ServiceHistory :=
  s.attemptsFrom network giveUpAt op source maxRetries 0 h

/-- Calls the operation that a caller names; any other name is an error. -/
def callNamed (s : Service) (network : Network) (giveUpAt : Option Nat) (name source : Text)
    (h : ServiceHistory) : Except Failure Text × ServiceHistory :=
  match Compiler.operation name with
  | .error e => (.error e, h)
  | .ok op => s.call network giveUpAt op source h

end Service

end SyntaxPlayground
