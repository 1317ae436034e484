import CtorScan.Text.Search

/-!
# Places in source files

The bytes of all files of a package are numbered through, from one; the number
of a byte is its place, and zero stands for no place at all.  A chart knows the
places of one file: where its lines start, and where a comment says that what
follows comes from another file or line.  It names that file by a path, whose
plain form has no empty steps, no steps to the same directory, and no steps up
except at the start of a relative path.
-/

namespace CtorScan
namespace Text

/-- Add a step to the plain steps so far, the last of which comes first. -/
def addStep
    (rooted : Bool)
    (done : List (List Char))
    (step : List Char) : List (List Char) :=
  if step = [] ∨ step = ['.'] then
    done
  else if step = ['.', '.'] then
    match done with
    | [] => if rooted then [] else [step]
    | last :: rest => if last = ['.', '.'] then step :: done else rest
  else
    step :: done

/-- The path starts at the root. -/
def isRooted (path : List Char) : Bool :=
  path.head? == some '/'

/-- The plain form of a path. -/
def plainPath (path : List Char) : List Char :=
  let rooted := isRooted path
  let steps := ((splitAt '/' path).foldl (addStep rooted) []).reverse
  let body := joinWith ['/'] steps
  if rooted then '/' :: body else if body.isEmpty then ['.'] else body

/-- A path as seen from a directory, which may be empty. -/
def pathFrom
    (directory path : List Char) : List Char :=
  if directory.isEmpty then plainPath path else plainPath (directory ++ '/' :: path)

/-- The directory part of a path: all up to its last slash. -/
def directoryOf (path : List Char) : List Char :=
  (path.reverse.dropWhile (· != '/')).reverse

end Text

namespace Source

/-- The position that a place is reported at. -/
structure Position where
  /-- The name of the file, empty when there is none. -/
  file : String
  /-- The line, counted from one. -/
  line : Nat
  /-- The column in bytes, counted from one; zero when it is unknown. -/
  column : Nat
deriving DecidableEq, Inhabited

/-- The position of no place. -/
def Position.none : Position := ⟨"", 0, 0⟩

/-- A comment that says where the following text comes from. -/
structure Redirection where
  /-- The offset of the text that follows the comment. -/
  offset : Nat
  /-- The file it comes from. -/
  file : String
  /-- The line it comes from. -/
  line : Nat
  /-- The column it comes from; zero when it is unknown. -/
  column : Nat
deriving DecidableEq, Inhabited

/-- The layout of one file. -/
structure Chart where
  /-- The name of the file. -/
  name : String
  /-- The place of its first byte. -/
  base : Nat
  /-- Its size in bytes. -/
  size : Nat
  /-- The offsets at which its lines start, in increasing order. -/
  lines : List Nat
  /-- Its redirections, in increasing order of their offsets. -/
  redirections : List Redirection
deriving DecidableEq, Inhabited

namespace Chart

/-- The line of an offset, counted from one, and the offset at which that line
starts. -/
def lineAt
    (chart : Chart)
    (offset : Nat) : Nat × Nat :=
  let started := chart.lines.takeWhile (· ≤ offset)
  (started.length, started.getLast?.getD 0)

/-- The redirection that applies at an offset: the last one before it. -/
def redirectionAt?
    (chart : Chart)
    (offset : Nat) : Option Redirection :=
  (chart.redirections.takeWhile fun redirection => redirection.offset ≤ offset).getLast?

/-- The position of an offset in the file itself. -/
def plainPosition
    (chart : Chart)
    (offset : Nat) : Position :=
  let (line, start) := chart.lineAt offset
  ⟨chart.name, line, offset - start + 1⟩

/-- The position of an offset as a redirection gives it.  The column is known if
the redirection gives one, and is counted from there on the line of the
redirection only. -/
def redirectedPosition
    (chart : Chart)
    (offset : Nat)
    (redirection : Redirection) : Position :=
  let plain := chart.plainPosition offset
  let distance := plain.line - (chart.lineAt redirection.offset).1
  let column :=
    if redirection.column = 0 then 0
    else if distance = 0 then redirection.column + (offset - redirection.offset)
    else plain.column
  ⟨redirection.file, redirection.line + distance, column⟩

/-- The position at which an offset is reported. -/
def position
    (chart : Chart)
    (offset : Nat) : Position :=
  match chart.redirectionAt? offset with
  | none => chart.plainPosition offset
  | some redirection => chart.redirectedPosition offset redirection

/-- The place belongs to the file; so does the place right after its end. -/
def contains
    (chart : Chart)
    (place : Nat) : Bool :=
  chart.base ≤ place && place ≤ chart.base + chart.size

/-- The position of a place of the file. -/
def positionOf
    (chart : Chart)
    (place : Nat) : Position :=
  chart.position (place - chart.base)

end Chart

/-- The position of a place in one of some files. -/
def positionIn
    (charts : List Chart)
    (place : Nat) : Position :=
  match charts.find? fun chart => chart.contains place with
  | some chart => chart.positionOf place
  | none => .none

/-- The offsets after the line feeds of a text, as far as something follows. -/
def lineStartsAfter
    (size : Nat) : Nat -> List Char -> List Nat
  | _, [] => []
  | offset, c :: rest =>
      let next := offset + c.utf8Size
      if c = '\n' ∧ next < size then
        next :: lineStartsAfter size next rest
      else
        lineStartsAfter size next rest

/-- The offsets at which the lines of a text start. -/
def lineStarts (text : String) : List Nat :=
  0 :: lineStartsAfter text.utf8ByteSize 0 text.toList

end Source
end CtorScan
