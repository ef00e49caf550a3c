import SyntaxPlayground.Markup.Basic
import Std.Data.HashMap

/-!
# Listeners

A listener waits for one kind of event on one target. The registry keeps listeners under numbers
that are never given twice, and beside them the numbers at each target, in order of registration:
`listeners` answers "who is this", `byTarget` "who waits here".
-/

namespace SyntaxPlayground

/-- The name of a mounted element. -/
abbrev Handle := Text

/-- What an event can happen to. -/
inductive Target where
  | element (handle : Handle)
  | treePane
  | body
  /-- No element at all. -/
  | nowhere
deriving DecidableEq, Hashable, Repr

/-! ## The kinds of events that a page knows -/

namespace EventKind

/-- The pointer comes onto an element. -/
def mouseEnter : Text := utf8 "mouseenter"

/-- The pointer leaves an element. -/
def mouseLeave : Text := utf8 "mouseleave"

/-- An element is clicked. -/
def click : Text := utf8 "click"

/-- All of them. -/
def all : List Text := [mouseEnter, mouseLeave, click]

end EventKind

/-- Something that happens to a target. Events do not spread to other targets. -/
structure Event where
  kind : Text
  target : Target
deriving DecidableEq, Repr

/-- What the playground itself does on an event at a label. -/
inductive Reaction where
  /-- Highlights the node. -/
  | hoverIn
  /-- Ends the highlight. -/
  | hoverOut
  /-- Selects the node's span in the editor. -/
  | pick
deriving DecidableEq, Repr

/-- One thing that a script does when an event reaches it. -/
inductive Action where
  /-- Removes the listener that was the `index`-th to be added by a script's owner. -/
  | unlisten (index : Int)
  /-- Adds a listener on the target of the event. -/
  | listen (kind name : Text) (actions : List Action)
  /-- Sends another event to the same target. -/
  | dispatch (kind : Text)
  /-- Takes the playground's own listeners off the page. -/
  | unbind
deriving Inhabited, Repr

/-- What a listener does: a reaction of the playground, or the script of somebody else. -/
inductive Handler where
  | reaction (r : Reaction)
  | script (name : Text) (actions : List Action)
deriving Repr

/-- A registered listener. -/
structure Listener where
  target : Target
  kind : Text
  handler : Handler
deriving Repr

/-- The registered listeners. -/
structure Registry where
  /-- The listeners by number, newest first. -/
  listeners : List (Nat × Listener) := []
  /-- The numbers at each target that has any, oldest first. -/
  byTarget : Std.HashMap Target (List Nat) := ∅
  /-- The last number given. -/
  last : Nat := 0

namespace Registry

/-- The listener with the given number. -/
def find? (r : Registry) (id : Nat) : Option Listener :=
  r.listeners.lookup id

/-- The numbers at a target, oldest first. -/
def idsAt (r : Registry) (t : Target) : List Nat :=
  r.byTarget.getD t []

/-- The number of registered listeners. -/
def count (r : Registry) : Nat :=
  r.listeners.length

/-- Registers a listener: its number and the registry with it. -/
def add (r : Registry) (l : Listener) : Nat × Registry :=
  let id := r.last + 1
  (id,
    { listeners := (id, l) :: r.listeners
      byTarget := r.byTarget.insert l.target (r.idsAt l.target ++ [id])
      last := id })

/-- Takes a listener out. A number that is not registered changes nothing. -/
def remove (r : Registry) (id : Nat) : Registry :=
  match r.find? id with
  | none => r
  | some l =>
    let rest := (r.idsAt l.target).erase id
    { r with
      listeners := r.listeners.eraseP (·.1 = id)
      byTarget :=
        if rest.isEmpty then r.byTarget.erase l.target else r.byTarget.insert l.target rest }

end Registry

/-- Sends an event: runs the listeners that wait for it at its target when it is sent, oldest
first, skipping those that were taken out meanwhile. Answers how many ran. `registry` reads the
listeners off the state, and `run` is the effect of a handler on it. -/
def dispatchWith {σ : Type} (registry : σ → Registry) (run : Handler → Event → σ → σ) (ev : Event)
    (s : σ) : Nat × σ :=
  ((registry s).idsAt ev.target).foldl
    (fun (ran, s) id =>
      match (registry s).find? id with
      | some l => if l.kind = ev.kind then (ran + 1, run l.handler ev s) else (ran, s)
      | none => (ran, s))
    (0, s)

end SyntaxPlayground
