import SyntaxPlayground.Compiler.Statistics
import SyntaxPlayground.Json.Basic
import SyntaxPlayground.Server.Request
import SyntaxPlayground.Session
import SyntaxPlayground.Store
import SyntaxPlayground.Text.Shortest

/-!
# What goes over the wire

Snapshots, event results, samples, statistics and errors as JSON, and the statuses of errors.
-/

namespace SyntaxPlayground

namespace Wire

/-- A selection. -/
def selection (s : Selection) : JsonValue :=
  .object [(utf8 "anchor", .nat s.anchor), (utf8 "head", .nat s.head)]

/-- A snapshot. -/
def snapshot (s : Snapshot) : JsonValue :=
  .object [
    (utf8 "session_id", .string s.id),
    (utf8 "view", .string s.view),
    (utf8 "source", .string s.source),
    (utf8 "tree_html", .string s.treeHtml),
    (utf8 "nodes", .nat s.nodes),
    (utf8 "result", .string s.result),
    (utf8 "selection", selection s.selection),
    (utf8 "selected_text", .string s.selected),
    (utf8 "interactive", .bool s.interactive)]

/-- What an event has led to. -/
def eventResult (r : EventResult) : JsonValue :=
  .object [
    (utf8 "handled", .nat r.handled),
    (utf8 "selection", selection r.selection),
    (utf8 "selected_text", .string r.selected),
    (utf8 "highlighted", .array (r.highlighted.map .string))]

/-- What a command answered. -/
def answer : Answer → JsonValue
  | .snapshot s => snapshot s
  | .event r => eventResult r

/-- A sample; an empty description is left out. -/
def sample (s : Sample) : JsonValue :=
  .object (
    [(utf8 "name", .string s.name)] ++
    (if s.description = [] then [] else [(utf8 "description", .string s.description)]) ++
    [(utf8 "source", .string s.source)])

/-- A floating-point number. -/
def float (f : Float) : JsonValue :=
  .number (Text.ofFloat f)

/-- A summary of calls. -/
def summary (s : Summary) : JsonValue :=
  .object [
    (utf8 "count", .nat s.count),
    (utf8 "errors", .nat s.failures),
    (utf8 "min_ms", .int s.shortest),
    (utf8 "max_ms", .int s.longest),
    (utf8 "avg_ms", float s.mean),
    (utf8 "p50_ms", float s.median),
    (utf8 "p95_ms", float s.p95),
    (utf8 "p99_ms", float s.p99)]

/-- Summaries by the names of their operations, in order of the names. -/
def summaries (l : List (Operation × Summary)) : JsonValue :=
  let named := l.map fun (op, s) => (op.name, summary s)
  .object (named.mergeSort fun a b => !b.1.before a.1)

/-- A JSON body, which ends in a newline. -/
def body (v : JsonValue) : Text :=
  v.write ++ [10]

/-- A response with a JSON body. -/
def json (status : Nat) (v : JsonValue) : HttpResponse :=
  ⟨status, utf8 "application/json", body v⟩

/-- A response with an error. -/
def error (status : Nat) (message : Text) : HttpResponse :=
  json status (.object [(utf8 "error", .string message)])

end Wire

namespace SessionError

/-- The status that an error of a session is answered with. What is not known to be the session's
or the caller's doing is the compiler's. -/
def status : SessionError → Nat
  | closed => 410
  | unknownSample _ => 404
  | event (.unknownElement _) => 409
  | interrupted .deadline => 504
  | compiler f => if f.isInterrupted .deadline then 504 else 502
  | interrupted .canceled | mount _ | event _ => 502

end SessionError

namespace StoreError

/-- The status that an error of the store is answered with. -/
def status : StoreError → Nat
  | notFound _ => 404
  | limitReached _ => 503

end StoreError

end SyntaxPlayground
