import SyntaxPlayground.Page.Basic

/-!
# A page with other listeners

Besides the playground others may put listeners on a page. Here their handlers are scripts: lists
of actions that add and remove listeners, send further events, or unbind the page. A scene records
which scripts ran.
-/

namespace SyntaxPlayground

/-- A page and what the owners of scripts know about it. -/
structure Scene where
  page : Page
  /-- The numbers of the listeners that were added for scripts, in order. -/
  issued : List Nat := []
  /-- The scripts that ran, each with the kind of its event, oldest first. -/
  fired : List (Text × Text) := []
  /-- Elements that somebody holds on to, by name. -/
  kept : List (Text × Target) := []
  /-- Whether scripts sent events within events beyond the limit. -/
  runaway : Bool := false

namespace Scene

/-- Adds a listener with a script; answers its place among those added. -/
def listen (s : Scene) (t : Target) (kind name : Text) (actions : List Action) : Nat × Scene :=
  let (id, d) := s.page.document.listen ⟨t, kind, .script name actions⟩
  (s.issued.length,
    { s with page := { s.page with document := d }, issued := s.issued ++ [id] })

/-- Removes the listener at a place among those added; a place not yet given out is ignored. -/
def unlisten (s : Scene) (index : Int) : Scene :=
  if index < 0 then s
  else
    match s.issued[index.toNat]? with
    | some id => { s with page := { s.page with document := s.page.document.unlisten id } }
    | none => s

/-- Sends an event, with the effect of handlers given. -/
def dispatchBy (run : Handler → Event → Scene → Scene) (ev : Event) (s : Scene) : Nat × Scene :=
  dispatchWith (·.page.document.registry) run ev s

/-- One action of a script that an event has reached. -/
def act (run : Handler → Event → Scene → Scene) (ev : Event) (s : Scene) : Action → Scene
  | .unlisten index => s.unlisten index
  | .listen kind name actions => (s.listen ev.target kind name actions).2
  | .dispatch kind => (s.dispatchBy run ⟨kind, ev.target⟩).2
  | .unbind => { s with page := s.page.unbind }

/-- The effect of a handler, when events may be sent within events `depth` levels deep. -/
def run : Nat → Handler → Event → Scene → Scene
  | 0, _, _, s => { s with runaway := true }
  | _ + 1, .reaction r, ev, s => { s with page := s.page.react r ev }
  | depth + 1, .script name actions, ev, s =>
    actions.foldl (act (run depth) ev) { s with fired := s.fired ++ [(name, ev.kind)] }

/-- How deep events may be sent within events. -/
def depthLimit : Nat := 1000

/-- Sends an event; answers how many listeners ran. -/
def dispatch (s : Scene) (ev : Event) : Nat × Scene :=
  s.dispatchBy (run depthLimit) ev

end Scene

end SyntaxPlayground
