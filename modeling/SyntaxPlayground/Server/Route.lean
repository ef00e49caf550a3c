import SyntaxPlayground.Compiler.Operation

/-!
# Routes

Where a request goes, by its method and path. A path that exists but not with the method is told
from one that does not exist. Everything below a session's path goes to the session routes, whether
it exists or not, because the key is asked for first.
-/

namespace SyntaxPlayground

/-- Why a request goes nowhere. -/
inductive RouteError where
  | notFound
  | methodNotAllowed
deriving DecidableEq, Repr

/-- What can be done with a session. -/
inductive SessionRoute where
  | look
  | delete
  | run (op : Operation)
  | sample
  | event
  | socket
deriving DecidableEq, Repr

/-- Where a request goes. -/
inductive Route where
  | health
  | render
  | samples
  | sample (name : Text)
  | statistics
  | create
  | session (id : Text) (route : Except RouteError SessionRoute)
deriving Repr

namespace Route

/-- The methods that are known at all. -/
def methods : List Text :=
  ["CONNECT", "DELETE", "GET", "HEAD", "OPTIONS", "PATCH", "POST", "PUT", "TRACE"].map utf8

/-- Picks the route of a method. -/
def choose {α : Type} (method : Text) (routes : List (Text × α)) : Except RouteError α :=
  match routes.lookup method with
  | some r => .ok r
  | none => .error .methodNotAllowed

/-- The route below a session's path, which is the part after the slash that follows the
identifier. -/
def belowSession (sockets : Bool) (method rest : Text) : Except RouteError SessionRoute :=
  let get := utf8 "GET"
  let post := utf8 "POST"
  if rest = [] then choose method [(get, .look), (utf8 "DELETE", .delete)]
  else if rest = utf8 "sample" then choose method [(post, .sample)]
  else if rest = utf8 "events" then choose method [(post, .event)]
  else if rest = utf8 "ws" ∧ sockets then choose method [(get, .socket)]
  else
    match Operation.ofName? rest with
    | some op => choose method [(post, .run op)]
    | none => .error .notFound

/-- What follows `start` in a path. -/
def after? (start path : Text) : Option Text :=
  if start.isPrefixOf path then some (path.drop start.length) else none

/-- Where a request with the given method and path goes. -/
def find (sockets : Bool) (method path : Text) : Except RouteError Route :=
  let get := utf8 "GET"
  let post := utf8 "POST"
  if !methods.contains method then .error .methodNotAllowed
  else if path = utf8 "/health" then choose method [(get, .health)]
  else if path = utf8 "/api/render" then choose method [(post, .render)]
  else if path = utf8 "/api/samples" then choose method [(get, .samples)]
  else if path = utf8 "/api/stats/compiler" then choose method [(get, .statistics)]
  else if path = utf8 "/api/sessions" then choose method [(post, .create)]
  else
    match after? (utf8 "/api/samples/") path, after? (utf8 "/api/sessions/") path with
    | some name, _ =>
      if name = [] ∨ name.contains 47 then .error .notFound
      else choose method [(get, .sample name)]
    | none, some rest =>
      if rest = [] then .error .notFound
      else
        let (id, rest) := (rest.cutByte? 47).getD (rest, [])
        .ok (.session id (belowSession sockets method rest))
    | none, none => .error .notFound

end Route

end SyntaxPlayground
