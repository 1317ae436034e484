import CtorScan.Text.Search

/-!
# Files

A tree of files and directories under a working directory, in which relative
paths are looked up.  A path that names no file gives the reason in the words
that are shown to the user.
-/

namespace CtorScan

/-- Files with their contents, and directories, by their paths. -/
structure Files where
  /-- The files with their contents. -/
  files : List (String × String)
  /-- The directories that are there even when they are empty. -/
  directories : List String

namespace Files

/-- Why a file cannot be read. -/
inductive Fault where
  /-- There is nothing at the path. -/
  | missing (path : String)
  /-- The path goes through something that is no directory. -/
  | notDirectory (path : String)
  /-- The path names a directory. -/
  | isDirectory (path : String)
deriving DecidableEq

/-- The wording of a fault. -/
def Fault.message : Fault -> String
  | .missing path => "open " ++ path ++ ": no such file or directory"
  | .notDirectory path => "open " ++ path ++ ": not a directory"
  | .isDirectory path => "read " ++ path ++ ": is a directory"

/-- Whatever can be asked for the text at a path. -/
abbrev Access := String -> Except Fault String

/-- The steps of a path; steps to the same directory are left out. -/
def steps (path : String) : List (List Char) :=
  (Text.splitAt '/' path.toList).filter fun part => part ≠ [] ∧ part ≠ ['.']

/-- The content of the file at the end of some steps. -/
def content?
    (tree : Files)
    (path : List (List Char)) : Option String :=
  (tree.files.find? fun file => steps file.1 == path).map Prod.snd

/-- There is a directory at the end of some steps. -/
def isDirectoryAt
    (tree : Files)
    (path : List (List Char)) : Bool :=
  path.isEmpty ||
    (tree.files.any fun file => path.isPrefixOf (steps file.1) && path != steps file.1) ||
    (tree.directories.any fun directory => path.isPrefixOf (steps directory))

/-- Follow some steps from a directory, and read what is there. -/
def follow
    (tree : Files)
    (path : String)
    (done : List (List Char)) : List (List Char) -> Except Fault String
  | [] => .error (.isDirectory path)
  | step :: rest =>
      let next := if step = ['.', '.'] then done.dropLast else done ++ [step]
      match tree.content? next with
      | some content =>
          if rest.isEmpty && path.toList.getLast? != some '/' then
            .ok content
          else
            .error (.notDirectory path)
      | none =>
          if tree.isDirectoryAt next then follow tree path next rest else .error (.missing path)

/-- Read the file at a path; absolute paths lead out of the tree. -/
def read (tree : Files) : Access := fun path =>
  if path = "" ∨ path.toList.head? = some '/' then
    .error (.missing path)
  else
    tree.follow path [] (steps path)

end Files
end CtorScan
