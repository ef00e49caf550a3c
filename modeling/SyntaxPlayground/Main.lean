import SyntaxPlayground.CommandLine.Basic

/-!
# The program

Reads what the task of a command line needs, runs it, and writes its report: the output to standard
output, an error to standard error. There is no connection to a compiler service from here, so a
task that asks one is told that it cannot be reached.
-/

namespace SyntaxPlayground

namespace Program

/-- The bytes of a text in a row. -/
def bytesOf (t : Text) : ByteArray := ⟨t.toArray⟩

/-- The text as a string; empty if it is not UTF-8. -/
def stringOf (t : Text) : String := (String.fromUTF8? (bytesOf t)).getD ""

/-- Everything that is left in a stream. -/
partial def readAll (stream : IO.FS.Stream) (seen : ByteArray) : IO ByteArray := do
  let chunk ← stream.read 65536
  if chunk.isEmpty then return seen else readAll stream (seen ++ chunk)

/-- The fault behind an error of the file system. -/
def faultOf : IO.Error → FileFault
  | .noFileOrDirectory .. => .missing
  | .inappropriateType .. => .isFolder
  | e => .other (utf8 (toString e))

/-- Reads a file. -/
def readFile (path : Text) : IO (Except FileError Text) := do
  try
    return .ok (← IO.FS.readBinFile (stringOf path)).data.toList
  catch e => return .error ⟨path, faultOf e⟩

/-- The environment, as far as the configuration looks at it. -/
def environment : IO Environment := do
  let values ← Configuration.variableNames.mapM fun name => do
    return (name, utf8 ((← IO.getEnv (stringOf name)).getD ""))
  return fun name => (List.lookup name values).getD []

/-- The inputs of a task. -/
def inputsOf (t : Task) : IO Inputs := do
  let files ← t.paths.mapM fun path => do return (path, ← readFile path)
  let standardInput ←
    if t.origin? = some .standardInput then readAll (← IO.getStdin) .empty else pure .empty
  return {
    standardInput := standardInput.data.toList
    read := fun path => (List.lookup path files).getD (.error ⟨path, .missing⟩)
    network := {
      reply := fun _ => .unreachable (utf8 "network is unreachable")
      clock := fun _ => 0
      took := fun _ => 0 } }

/-- Writes a message to standard error and gives the exit code of a failure. -/
def fail (message : Text) : IO UInt32 := do
  (← IO.getStderr).write (bytesOf (message ++ [10]))
  return 1

/-- Runs a command line. -/
def run (args : List Text) : IO UInt32 := do
  match CommandLine.read (Configuration.load (← environment)) args with
  | .error e => fail e.message
  | .ok task =>
    let report := task.run (← inputsOf task)
    (← IO.getStdout).write (bytesOf report.out)
    match report.error with
    | none => return 0
    | some e => fail e.message

end Program

end SyntaxPlayground

/-- Runs the command line. -/
def main (args : List String) : IO UInt32 :=
  SyntaxPlayground.Program.run (args.map SyntaxPlayground.utf8)
