import SyntaxPlayground.Text.Basic

/-!
# A folder of files

The files that a command may name: those of one folder, which holds no other folders. A path is
followed part by part from the folder.
-/

namespace SyntaxPlayground

/-- Why a file cannot be read. -/
inductive FileFault where
  | missing
  | isFolder
  /-- The path goes on behind a file. -/
  | throughFile
  | nameTooLong
  | badName
  | other (cause : Text)
deriving DecidableEq, Repr

/-- A file that cannot be read. -/
structure FileError where
  path : Text
  fault : FileFault
deriving DecidableEq, Repr

namespace FileError

/-- The text shown for the error. -/
def message (e : FileError) : Text :=
  let (attempt, cause) : Text × Text :=
    match e.fault with
    | .missing => (utf8 "open ", utf8 "no such file or directory")
    | .isFolder => (utf8 "read ", utf8 "is a directory")
    | .throughFile => (utf8 "open ", utf8 "not a directory")
    | .nameTooLong => (utf8 "open ", utf8 "file name too long")
    | .badName => (utf8 "open ", utf8 "invalid argument")
    | .other cause => (utf8 "open ", cause)
  attempt ++ e.path ++ utf8 ": " ++ cause

end FileError

/-- A folder: its files by name. -/
abbrev Folder := List (Text × Text)

namespace Folder

/-- How long the name of a file may be. -/
def nameLimit : Nat := 255

/-- How long a path may be. -/
def pathLimit : Nat := 4095

/-- Follows the parts of a path. `inside` says whether they start from the folder; of the world
around it nothing is known but folders. -/
def follow (d : Folder) : Bool → List Text → Except FileFault Text
  | _, [] => .error .isFolder
  | inside, part :: rest =>
    if part = [] ∨ part = [46] then d.follow inside rest
    else if part = [46, 46] then d.follow false rest
    else if nameLimit < part.length then .error .nameTooLong
    else
      match inside, List.lookup part d with
      | true, some content => if rest = [] then .ok content else .error .throughFile
      | _, _ => .error .missing

/-- Reads the file with the given path. -/
def read (d : Folder) (path : Text) : Except FileError Text :=
  let content : Except FileFault Text :=
    if path.contains 0 then .error .badName
    else if path = [] then .error .missing
    else if pathLimit < path.length then .error .nameTooLong
    else d.follow (path.head? != some 47) (path.splitByte 47)
  content.mapError (⟨path, ·⟩)

end Folder

end SyntaxPlayground
