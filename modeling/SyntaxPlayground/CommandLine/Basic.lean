import SyntaxPlayground.CommandLine.Flag
import SyntaxPlayground.CommandLine.Task
import SyntaxPlayground.Text.EditDistance

/-!
# The command line

The arguments name a command, in front of which only flags may stand, and give it flags and at most
one word. Understanding them gives a task; running it needs the world outside.
-/

namespace SyntaxPlayground

/-- The commands. -/
inductive Subcommand where
  | render
  | outline
  | parse
  | samples
  | help
  | completion
deriving DecidableEq, Repr

namespace Subcommand

/-- The name of a command. -/
def name : Subcommand → Text
  | render => utf8 "render"
  | outline => utf8 "outline"
  | parse => utf8 "parse"
  | samples => utf8 "samples"
  | help => utf8 "help"
  | completion => utf8 "completion"

/-- Every command. -/
def all : List Subcommand :=
  [render, outline, parse, samples, help, completion]

/-- The command with the given name. -/
def ofName? (n : Text) : Option Subcommand :=
  all.find? (·.name == n)

/-- How far a name may be from the one it is a slip for. -/
def slipLimit : Nat := 2

/-- Whether someone who typed `n` may have meant the command: letter case aside, the name is at most
two edits away or begins with `n`. Help is never suggested. -/
def mayBeMeant (n : Text) (c : Subcommand) : Bool :=
  c != help && (n.lower.editDistance c.name ≤ slipLimit || n.lower.isPrefixOf c.name)

end Subcommand

/-- What is wrong with a command line. -/
inductive UsageError where
  | unknownCommand (name : Text)
  | badFlag (e : FlagError)
  | tooManyWords (count : Nat)
deriving DecidableEq, Repr

namespace UsageError

/-- The commands that may have been meant, a line each, under a question. -/
def suggestions (name : Text) : Text :=
  match Subcommand.all.filter (·.mayBeMeant name) with
  | [] => []
  | meant => utf8 "\n\nDid you mean this?\n" ++ meant.flatMap fun c => [9] ++ c.name ++ [10]

/-- The text shown for the error. -/
def message : UsageError → Text
  | unknownCommand name =>
    utf8 "unknown command " ++ name.quoted ++ utf8 " for \"astview\"" ++ suggestions name
  | badFlag e => e.message
  | tooManyWords count => utf8 "accepts at most 1 arg(s), received " ++ Text.ofNat count

end UsageError

/-- What the flags of all commands set. -/
structure Settings where
  verbose : Bool := false
  help : Bool := false
  plain : Bool := false
  depth : Int := 0
  operation : Text := Operation.parse.name
  sample : Text := []
  dump : Text := []
  format : Text := utf8 "outline"
  compilerUrl : Text
  compilerKey : Text
deriving DecidableEq, Repr

namespace Settings

/-- The settings before any flag is read. -/
def initial (c : Configuration) : Settings :=
  { compilerUrl := c.compilerUrl, compilerKey := c.compilerApiKey }

/-- The flag that every command has, wherever it stands. -/
def verboseFlag : Flag Settings :=
  .switch (utf8 "verbose") (some 118) fun b s => { s with verbose := b }

/-- The flags that every command has once it is found. -/
def sharedFlags : List (Flag Settings) :=
  [verboseFlag, .switch (utf8 "help") (some 104) fun b s => { s with help := b }]

end Settings

namespace Subcommand

/-- The flags of a command. -/
def flags (c : Subcommand) : List (Flag Settings) :=
  let own : List (Flag Settings) :=
    match c with
    | outline =>
      [.switch (utf8 "plain") none fun b s => { s with plain := b },
        .integer (utf8 "depth") fun n s => { s with depth := n }]
    | parse =>
      [.text (utf8 "op") none fun t s => { s with operation := t },
        .text (utf8 "sample") none fun t s => { s with sample := t },
        .text (utf8 "dump") none fun t s => { s with dump := t },
        .text (utf8 "format") (some 102) fun t s => { s with format := t },
        .text (utf8 "compiler-url") none fun t s => { s with compilerUrl := t },
        .text (utf8 "compiler-key") none fun t s => { s with compilerKey := t }]
    | _ => []
  own ++ Settings.sharedFlags

/-- Whether a command only ever prints help. -/
def onlyHelps (c : Subcommand) : Bool :=
  c == help || c == completion

/-- What a command with the given settings and word is to do. -/
def task (c : Subcommand) (s : Settings) (word : Option Text) : Task :=
  match c with
  | render => .render (.ofWord word)
  | outline => .outline (.ofWord word) { plain := s.plain, maxDepth := s.depth }
  | parse =>
    .compile {
      operation := s.operation
      sample := if s.sample = [] then none else some s.sample
      origin := .ofWord word
      compiler :=
        if s.dump = [] then .service { baseUrl := s.compilerUrl, apiKey := s.compilerKey }
        else .saved s.dump
      format := .ofName s.format }
  | samples =>
    match word with
    | some name => .printSample name
    | none => .listSamples
  | help | completion => .help

end Subcommand

namespace CommandLine

/-! ## Finding the command -/

/-- Whether an argument in front of the command seems to take the next one for its value: a flag
without an equals sign, unless it is known to need none. -/
def takesNext (a : Text) : Bool :=
  match a with
  | 45 :: 45 :: name => !name.contains 61 && name != Settings.verboseFlag.name
  | [45, letter] => letter != 61 && some letter != Settings.verboseFlag.letter
  | _ => false

/-- The first word among the arguments. A flag that takes a value ends the search when not more than
that value is left. -/
def firstWord? : List Text → Option Text
  | [] => none
  | a :: rest =>
    if a = [45, 45] then none
    else if takesNext a then
      match rest with
      | _ :: b :: rest => firstWord? (b :: rest)
      | _ => none
    else if a = [] ∨ a.head? = some 45 then firstWord? rest
    else some a

/-- The arguments without the word `w` that `firstWord?` finds in them. -/
def withoutWord (w : Text) : List Text → List Text
  | [] => []
  | a :: rest =>
    if a = [45, 45] then a :: rest
    else if takesNext a then
      match rest with
      | value :: rest => a :: value :: withoutWord w rest
      | [] => [a]
    else if a = w then rest
    else a :: withoutWord w rest

/-! ## Reading and running -/

/-- Reads the arguments of a command. -/
def readCommand (config : Configuration) (c : Subcommand) (args : List Text) :
    Except UsageError Task :=
  match Flag.readAll c.flags args (.initial config) with
  | .error e => .error (.badFlag e)
  | .ok r =>
    if r.settings.help || c.onlyHelps then .ok .help
    else if 1 < r.words.length then .error (.tooManyWords r.words.length)
    else .ok (c.task r.settings r.words.head?)

/-- Reads a command line. Without a command it asks for help. -/
def read (config : Configuration) (args : List Text) : Except UsageError Task :=
  match firstWord? args with
  | none =>
    match Flag.readAll Settings.sharedFlags args (.initial config) with
    | .error e => .error (.badFlag e)
    | .ok _ => .ok .help
  | some w =>
    match Subcommand.ofName? w with
    | none => .error (.unknownCommand w)
    | some c => readCommand config c (withoutWord w args)

/-- What a command line comes to: the report of its task, or what is wrong with it. -/
def run (config : Configuration) (i : Inputs) (args : List Text) : Except UsageError Report :=
  (read config args).map (·.run i)

end CommandLine

end SyntaxPlayground
