import SyntaxPlayground.CommandLine.Folder
import SyntaxPlayground.Compiler.Service
import SyntaxPlayground.Dump.Reader
import SyntaxPlayground.Markup.OfTree
import SyntaxPlayground.Outline
import SyntaxPlayground.Sample

/-!
# Tasks of the command line

What the command line can be asked to do, once the arguments are understood: show a dump, send a
source to the compiler and show what comes back, or show the samples. A task reads its inputs and
leaves a report; the requests it makes on the way are part of it.
-/

namespace SyntaxPlayground

/-- Where a task reads from. -/
inductive Origin where
  | standardInput
  | file (path : Text)
deriving DecidableEq, Repr

namespace Origin

/-- The origin that a command's word names: none, and a hyphen, mean standard input. -/
def ofWord : Option Text → Origin
  | none => standardInput
  | some path => if path = [45] then standardInput else file path

end Origin

/-- How the tree of a source is shown. -/
inductive TreeFormat where
  | outline
  | html
  | dump
deriving DecidableEq, Repr

namespace TreeFormat

/-- The format with the given name; an outline for any other name. -/
def ofName (name : Text) : TreeFormat :=
  if name = utf8 "html" then html else if name = utf8 "dump" then dump else outline

end TreeFormat

/-- Which compiler a task asks. -/
inductive CompilerChoice where
  | service (s : Service)
  /-- A compiler that answers with the dump in a file. -/
  | saved (path : Text)
deriving DecidableEq, Repr

/-- Runs a source through a compiler. -/
structure CompileTask where
  /-- The operation, as the caller names it. -/
  operation : Text
  /-- The sample whose source is taken, if any, instead of the origin's. -/
  sample : Option Text
  origin : Origin
  compiler : CompilerChoice
  format : TreeFormat
deriving DecidableEq, Repr

/-- What the command line can be asked to do. -/
inductive Task where
  | help
  | render (origin : Origin)
  | outline (origin : Origin) (options : OutlineOptions)
  | compile (t : CompileTask)
  | listSamples
  | printSample (name : Text)

/-- Why a task failed. -/
inductive TaskError where
  | unreadable (e : FileError)
  | noProgram
  | unknownSample (e : UnknownSample)
  | compiler (f : Failure)
  /-- The compiler answered with something other than a tree. -/
  | noTree
deriving DecidableEq, Repr

namespace TaskError

/-- The text shown for the error. -/
def message : TaskError → Text
  | unreadable e => e.message
  | noProgram => Dump.noProgramMessage
  | unknownSample e => e.message
  | compiler f => f.message
  | noTree => utf8 "compiler did not return an AST"

end TaskError

/-- What a task finds around it. -/
structure Inputs where
  standardInput : Text
  read : Text → Except FileError Text
  network : Network

namespace Inputs

/-- The text at an origin. -/
def textAt (i : Inputs) : Origin → Except TaskError Text
  | .standardInput => .ok i.standardInput
  | .file path => (i.read path).mapError .unreadable

/-- The tree whose dump is at an origin. -/
def treeAt (i : Inputs) (o : Origin) : Except TaskError Tree := do
  match Tree.ofDump? (← i.textAt o) with
  | some tree => return tree
  | none => throw .noProgram

end Inputs

/-- What a task leaves behind. -/
structure Report where
  /-- What it wrote to standard output, also when it failed. -/
  out : Text := []
  error : Option TaskError := none
  /-- The requests it made, oldest first. -/
  requests : List ServiceRequest := []
deriving DecidableEq, Repr

namespace Report

/-- The report of a task that makes no requests and writes only when it succeeds. -/
def ofExcept : Except TaskError Text → Report
  | .ok out => { out }
  | .error e => { error := some e }

end Report

namespace CompileTask

/-- The source to be compiled. -/
def source (t : CompileTask) (i : Inputs) : Except TaskError Text :=
  match t.sample with
  | some name => ((Catalog.builtin.get name).map Sample.source).mapError .unknownSample
  | none => i.textAt t.origin

/-- The compiler's answer and the requests it took. -/
def answer (t : CompileTask) (i : Inputs) (source : Text) :
    Except TaskError Text × List ServiceRequest :=
  match t.compiler with
  | .saved path =>
    (do
      let dump ← (i.read path).mapError .unreadable
      ((Compiler.fixed dump [] []).run t.operation source).mapError .compiler, [])
  | .service s =>
    let (result, history) := s.callNamed i.network none t.operation source {}
    (result.mapError .compiler, history.requests)

/-- Shows an answer: the tree in it if one was asked for, otherwise the answer itself. -/
def present (t : CompileTask) (out : Text) : Text × Option TaskError :=
  if t.operation ≠ Operation.parse.name then (out, none)
  else
    match Tree.ofDump? out with
    | none => (out, some .noTree)
    | some tree =>
      match t.format with
      | .outline => (tree.outline {}, none)
      | .html => (tree.render ++ [10], none)
      | .dump => (out, none)

/-- Runs the task. -/
def run (t : CompileTask) (i : Inputs) : Report :=
  match t.source i with
  | .error e => { error := some e }
  | .ok source =>
    match t.answer i source with
    | (.error e, requests) => { error := some e, requests }
    | (.ok out, requests) =>
      let (out, error) := t.present out
      { out, error, requests }

end CompileTask

namespace Task

/-- Where a task reads from, if it reads anything. -/
def origin? : Task → Option Origin
  | render origin | outline origin _ => some origin
  | compile c => if c.sample.isNone then some c.origin else none
  | help | listSamples | printSample _ => none

/-- The paths of the files that a task may read. -/
def paths (t : Task) : List Text :=
  let fromOrigin :=
    match t.origin? with
    | some (.file path) => [path]
    | _ => []
  match t with
  | compile { compiler := .saved path, .. } => fromOrigin ++ [path]
  | _ => fromOrigin

/-- The name and description of each sample. -/
def sampleList (c : Catalog) : Text :=
  c.flatMap fun s =>
    s.name ++ [10] ++ (if s.description = [] then [] else utf8 "  " ++ s.description ++ [10])

/-- What the help task prints. -/
def helpText : Text :=
  List.flatMap (fun line => utf8 line ++ [10]) [
    "Render and inspect AST dumps",
    "",
    "  render [dump-file|-]    Render an AST dump as nested HTML lists",
    "  outline [dump-file|-]   Print an AST dump as a styled outline",
    "  parse [source-file|-]   Run source through the compiler service",
    "  samples [name]          List or print built-in sample programs"]

/-- Runs a task. -/
def run (t : Task) (i : Inputs) : Report :=
  match t with
  | help => { out := helpText }
  | render origin => .ofExcept ((i.treeAt origin).map fun tree => tree.render ++ [10])
  | outline origin options => .ofExcept ((i.treeAt origin).map (·.outline options))
  | compile c => c.run i
  | listSamples => { out := sampleList Catalog.builtin }
  | printSample name =>
    .ofExcept (((Catalog.builtin.get name).map Sample.source).mapError .unknownSample)

end Task

end SyntaxPlayground
