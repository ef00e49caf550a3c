import SyntaxPlayground.Compiler.Operation
import SyntaxPlayground.Dump.Reader
import SyntaxPlayground.Markup.OfTree
import SyntaxPlayground.Page.Basic
import SyntaxPlayground.Sample

/-!
# Sessions

A session is one playground: a page, and the tree that its page shows. Commands run one at a time.
A successful `parse` shows the tree that the compiler dumped, or the compiler's report if it dumped
none; `tokenize` and `interpret` show text; loading a sample drops the tree. A session that was
closed refuses every command.

The compiler is a function that is passed in, and so is the time of each command.
-/

namespace SyntaxPlayground

/-- What a session may be asked to do. -/
inductive Command where
  | parse (source : Text)
  | tokenize (source : Text)
  | interpret (source : Text)
  | loadSample (name : Text)
  /-- An event of the given kind on the element with the given handle. -/
  | event (kind : Text) (target : Handle)
  | snapshot
deriving DecidableEq, Repr

/-- What a session shows. -/
structure Snapshot where
  id : Text
  view : Text
  source : Text
  treeHtml : Text
  nodes : Nat
  result : Text
  selection : Selection
  selected : Text
  interactive : Bool
deriving DecidableEq, Repr

/-- What an event has led to. -/
structure EventResult where
  /-- How many listeners ran. -/
  handled : Nat
  selection : Selection
  selected : Text
  /-- The handles of the highlighted nodes, in document order. -/
  highlighted : List Handle
deriving DecidableEq, Repr

/-- What a command answers. -/
inductive Answer where
  | snapshot (s : Snapshot)
  | event (r : EventResult)
deriving DecidableEq, Repr

/-- Why a command failed. -/
inductive SessionError where
  | closed
  | interrupted (i : Interruption)
  | unknownSample (e : UnknownSample)
  | compiler (f : Failure)
  /-- The tree could not be shown. -/
  | mount (e : DocumentError)
  | event (e : DocumentError)
deriving DecidableEq, Repr

namespace SessionError

/-- The text shown for the error. -/
def message : SessionError → Text
  | closed => utf8 "session closed"
  | interrupted i => i.message
  | unknownSample e => e.message
  | compiler f => f.message
  | mount e => utf8 "mount tree: " ++ e.message
  | event e => e.message

end SessionError

/-- One playground. -/
structure Session where
  id : Text
  page : Page
  tree : Option Tree := none
  closed : Bool := false
  /-- The time of the last command, in nanoseconds. -/
  lastActive : Int

namespace Session

/-- A new session. -/
def new (id : Text) (unit : OffsetUnit) (now : Int) : Session :=
  { id, page := { buffer := { unit } }, lastActive := now }

/-- What the session shows. -/
def snapshot (s : Session) : Snapshot :=
  { id := s.id
    view := s.page.document.mode.name
    source := s.page.buffer.text
    treeHtml := s.page.document.treeHtml
    nodes := (s.tree.map Tree.count).getD 0
    result := s.page.document.result
    selection := s.page.buffer.selection
    selected := s.page.buffer.selected
    interactive := s.page.isBound }

/-- Changes the document. -/
def withDocument (s : Session) (f : Document → Document) : Session :=
  { s with page := { s.page with document := f s.page.document } }

/-- Replaces the source, which drops the selection. -/
def setSource (s : Session) (source : Text) : Session :=
  { s with page := { s.page with buffer := s.page.buffer.setText source } }

/-- Takes the tree off the page. -/
def dropTree (s : Session) : Session :=
  { withDocument { s with page := s.page.unbind } Document.clear with tree := none }

/-- Shows what the compiler answered to `parse`. When the tree cannot be mounted the page is left
unbound, with the new source. -/
def showParse (s : Session) (source output : Text) : Except SessionError Answer × Session :=
  let s := setSource { s with page := s.page.unbind } source
  let s := { s with tree := Tree.ofDump? output }
  match s.page.document.mount (renderTree s.tree) with
  | .error e => (.error (.mount e), s)
  | .ok d =>
    let s := s.withDocument fun _ => d.setResult output
    let s :=
      match s.tree with
      | none => withDocument { s with page := s.page.note .noTree } (·.setViewMode .text)
      | some _ =>
        withDocument { s with page := s.page.bind.2.note .treeMounted } (·.setViewMode .tree)
    (.ok (.snapshot s.snapshot), s)

/-- Shows text that the compiler answered. -/
def showText (s : Session) (source output : Text) : Except SessionError Answer × Session :=
  let s := (s.dropTree.setSource source).withDocument fun d =>
    (d.setResult output).setViewMode .text
  (.ok (.snapshot s.snapshot), s)

/-- Sends an event to an element. -/
def sendEvent (s : Session) (kind : Text) (target : Handle) :
    Except SessionError Answer × Session :=
  match s.page.document.eventTo target kind with
  | .error e => (.error (.event e), s)
  | .ok ev =>
    let (handled, page) := s.page.dispatch ev
    let s := { s with page }
    (.ok (.event {
      handled
      selection := page.buffer.selection
      selected := page.buffer.selected
      highlighted := page.document.withClass Vocabulary.highlight }), s)

/-- Runs a command that the session has accepted. -/
def execute (compiler : Compiler) (s : Session) : Command → Except SessionError Answer × Session
  | .parse source =>
    match compiler .parse source with
    | .error f => (.error (.compiler f), s)
    | .ok output => s.showParse source output
  | .tokenize source =>
    match compiler .tokenize source with
    | .error f => (.error (.compiler f), s)
    | .ok output => s.showText source output
  | .interpret source =>
    match compiler .interpret source with
    | .error f => (.error (.compiler f), s)
    | .ok output => s.showText source output
  | .loadSample name =>
    match Catalog.builtin.get name with
    | .error e => (.error (.unknownSample e), s)
    | .ok sample =>
      let s := s.dropTree.setSource sample.source
      (.ok (.snapshot s.snapshot), s)
  | .event kind target => s.sendEvent kind target
  | .snapshot => (.ok (.snapshot s.snapshot), s)

/-- Why a command is refused before it gets to the session: a sample that does not exist, or a
session that is closed. -/
def refusal? (s : Session) (c : Command) : Option SessionError :=
  let sampleError? :=
    match c with
    | .loadSample name =>
      match Catalog.builtin.get name with
      | .error e => some (SessionError.unknownSample e)
      | .ok _ => none
    | _ => none
  match sampleError? with
  | some e => some e
  | none => if s.closed then some .closed else none

/-- Runs a command at the time `now`. A command that the session accepts counts as activity even if
it fails. -/
def run (compiler : Compiler) (now : Int) (s : Session) (c : Command) :
    Except SessionError Answer × Session :=
  match s.refusal? c with
  | some e => (.error e, s)
  | none => execute compiler { s with lastActive := now } c

/-- A command whose caller stops waiting before the session gets to it has no effect. -/
def abandon (s : Session) (i : Interruption) : Except SessionError Answer × Session :=
  (.error (.interrupted i), s)

/-- Closes the session: its page is unbound and it refuses further commands. -/
def close (s : Session) : Session :=
  if s.closed then s else { s with page := s.page.unbind, closed := true }

end Session

end SyntaxPlayground
